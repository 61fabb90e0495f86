import InventoryIds.Format.Reading
import InventoryIds.Policy

/-!
# Admitting formats

A format is admitted when no literal holds an opening brace and no limit of the policy is
exceeded. One pass over the tokens finds the first literal at fault and counts the directives;
the limits are looked at afterwards, those on kinds in the order of the kinds.
-/

namespace InventoryIds

structure Tally where
  /-- The bytes of the tokens as they are written. -/
  bytes : Nat := 0
  random : Nat := 0
  guid : Nat := 0
  date : Nat := 0
  sequence : Nat := 0
deriving DecidableEq, Repr

namespace Tally

/-- The directives of a kind; literals are not counted. -/
def count (tally : Tally) : Kind → Nat
  | .text => 0
  | .random => tally.random
  | .guid => tally.guid
  | .date => tally.date
  | .sequence => tally.sequence

def increment (tally : Tally) : Kind → Tally
  | .text => tally
  | .random => { tally with random := tally.random + 1 }
  | .guid => { tally with guid := tally.guid + 1 }
  | .date => { tally with date := tally.date + 1 }
  | .sequence => { tally with sequence := tally.sequence + 1 }

/-- Passes over one token; a literal with an opening brace is refused where it stands. -/
def add (tally : Tally) (token : Token) : Except FormatError Tally :=
  match token with
  | .literal text =>
    if '{' ∈ text.toList then .error (.invalidArgument .text tally.bytes .reservedCharacter)
    else .ok { tally with bytes := tally.bytes + token.canonical.utf8ByteSize }
  | .directive d =>
    .ok { tally.increment d.kind with bytes := tally.bytes + token.canonical.utf8ByteSize }

/-- The first kind of which there are more than `limit` directives. -/
def overfull? (tally : Tally) (limit : Nat) : Option Kind :=
  Kind.directives.find? fun kind => decide (limit < tally.count kind)

end Tally

namespace Format

def validate (format : Format) (policy : Policy) : Except FormatError Unit := do
  let tally ← format.tokens.foldlM Tally.add {}
  match tally.overfull? policy.maxPerKind.toNat with
  | some kind => .error (.tooManyOfKind kind (tally.count kind) policy.maxPerKind.toNat)
  | none =>
    if policy.maxTokens.toNat < format.length then
      .error (.tooManyTokens format.length policy.maxTokens.toNat)
    else .ok ()

def compile (text : String) (policy : Policy) : Except FormatError Format := do
  let format ← parse text
  format.validate policy
  return format

end Format
end InventoryIds
