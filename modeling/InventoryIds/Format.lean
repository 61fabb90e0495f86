import InventoryIds.Token

/-!
# Formats

A format is a list of tokens. Its canonical text writes them one behind the other.
-/

namespace InventoryIds

structure Format where
  tokens : List Token
deriving DecidableEq, Repr

namespace Format

def empty : Format := ⟨[]⟩

def length (format : Format) : Nat := format.tokens.length

/-- There is no token, not even an empty literal. -/
def isEmpty (format : Format) : Bool := format.tokens.isEmpty

def count (format : Format) (kind : Kind) : Nat :=
  format.tokens.countP (·.kind = kind)

def hasSequence (format : Format) : Bool :=
  format.tokens.any (·.kind = .sequence)

def draws (format : Format) : Nat := format.tokens.countP Token.draws

def canonical (format : Format) : String :=
  String.join (format.tokens.map Token.canonical)

def standardText : String := "ITEM-\x7bSEQ\x7d"

/-- The format that new inventories start with. -/
def standard : Format := ⟨[.literal "ITEM-", .directive (.sequence .standard)]⟩

end Format
end InventoryIds
