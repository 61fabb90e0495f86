import InventoryIds.Json.Value
import InventoryIds.Directive
import InventoryIds.Inventory

/-!
# Exchanged values

The JSON shapes of the values that tokens are made of, of kinds and of inventories. What is read
is checked: codes, patterns and widths are those that a format text can hold.
-/

namespace InventoryIds
open Reader (accept advance closing colon fieldName? null peek quoted word64 word64?)

namespace RandomCode

def toJson (code : RandomCode) : Json := .word (UInt64.ofNat code.bits)

def ofJson? : Json → Option RandomCode
  | .number (.word bits) => (ofBits bits.toNat).toOption
  | _ => none

def read : Reader RandomCode := do accept (ofBits (← word64).toNat)

end RandomCode

namespace DatePattern

def toJson (pattern : DatePattern) : Json := .string pattern.spelling

def ofJson? : Json → Option DatePattern
  | .string s => (ofSpelling s).toOption
  | _ => none

def read : Reader DatePattern := do accept (ofSpelling (← quoted))

end DatePattern

namespace OrdinalWidth

def toJson : OrdinalWidth → Json
  | standard => .null
  | explicit digits => .word digits.toUInt64

def ofJson? : Json → Option OrdinalWidth
  | .null => some .standard
  | .number (.word n) => (ofNat n.toNat).toOption
  | _ => none

def read : Reader OrdinalWidth := do accept (ofNat? ((← word64?).map UInt64.toNat))

end OrdinalWidth

namespace InventoryId

def toJson (inventory : InventoryId) : Json := .word inventory.number

def read : Reader InventoryId := do return ⟨← word64⟩

end InventoryId

namespace Kind

def toJson (kind : Kind) : Json := .string kind.tag

def acceptTag (tag : String) : Reader Kind :=
  match ofTag? tag with
  | some kind => return kind
  | none => throw .mismatched

def readTag : Reader Kind := do acceptTag (← quoted)

/-- Reads a kind: its tag, or an object with the tag for its only name and nothing for its
value. Whatever starts otherwise is no kind, and an object without a name is none either. -/
def read : Reader Kind := do
  match ← peek with
  | none => throw .truncated
  | some '"' => readTag
  | some '{' =>
    advance
    match ← fieldName? false true with
    | none => throw .malformed
    | some tag =>
      let kind ← acceptTag tag
      colon
      null
      closing '}'
      return kind
  | some _ => throw .malformed

end Kind
end InventoryIds
