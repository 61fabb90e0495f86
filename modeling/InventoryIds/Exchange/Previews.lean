import InventoryIds.Json.Value
import InventoryIds.Minting

/-!
# Exchanged previews

The JSON shape of previews: an object with both of its fields, or a list of its two values.
-/

namespace InventoryIds
open Reader (advance closing colon element? fields peek quoted readList readOnce scalar skipValue)

namespace Preview

def toJson (preview : Preview) : Json :=
  .object [("preview", .string preview.preview),
    ("examples", .array (preview.examples.map .string))]

structure Parts where
  preview : Option String := none
  examples : Option (List String) := none

def Parts.complete : Parts → Reader Preview
  | ⟨some preview, some examples⟩ => return { preview, examples }
  | _ => throw .mismatched

def readField (parts : Parts) (name : String) : Reader Parts := do
  if name = "preview" then
    return { parts with preview := ← readOnce quoted parts.preview }
  else if name = "examples" then
    return { parts with examples := ← readOnce (readList quoted) parts.examples }
  else
    colon
    skipValue
    return parts

/-- Reads a preview: an object, or a list of its two values. -/
def read : Reader Preview := do
  match ← peek with
  | some '{' =>
    advance
    (← fields false readField {}).complete
  | some '[' =>
    advance
    let preview ← element? true quoted
    let examples ← if preview.isSome then element? false (readList quoted) else pure none
    let result ← Parts.complete { preview, examples }
    closing ']'
    return result
  | _ =>
    let _ ← scalar
    throw .mismatched

end Preview
end InventoryIds
