import InventoryIds.Directive

/-!
# Tokens

A token of a format is a piece of literal text or a directive.
-/

namespace InventoryIds

inductive Token where
  | literal (text : String)
  | directive (directive : Directive)
deriving DecidableEq, Repr

namespace Token

def kind : Token → Kind
  | literal _ => .text
  | directive d => d.kind

def draws : Token → Bool
  | literal _ => false
  | directive d => d.draws

/-- The token that an editor starts with for a kind. -/
def standard : Kind → Token
  | .text => literal ""
  | .random => directive (.random .standard)
  | .guid => directive .guid
  | .date => directive (.date .standard)
  | .sequence => directive (.sequence .standard)

def canonical : Token → String
  | literal text => text
  | directive d => d.canonical

end Token
end InventoryIds
