/-!
# Kinds of tokens

The five kinds of tokens, their heads, which open a directive and name a kind in messages, and
their tags, which name a kind in exchanged data. Heads and tags are read back to their kinds.
-/

namespace InventoryIds

/-- What a token stands for, in the order in which limits are reported. -/
inductive Kind where
  | text
  | random
  | guid
  | date
  | sequence
deriving DecidableEq, Repr

namespace Kind

def all : List Kind := [text, random, guid, date, sequence]

def directives : List Kind := [random, guid, date, sequence]

def rank : Kind → Nat
  | text => 0
  | random => 1
  | guid => 2
  | date => 3
  | sequence => 4

def head : Kind → String
  | text => "TEXT"
  | random => "RANDOM"
  | guid => "GUID"
  | date => "DATE"
  | sequence => "SEQ"

/-- The word for this kind in exchanged data. -/
def tag : Kind → String
  | sequence => "SEQUENCE"
  | kind => kind.head

def isDirective (kind : Kind) : Bool := kind != text

/-- The kind of directive that `word` opens; literal text is never opened by a word. -/
def ofHead? (word : String) : Option Kind :=
  directives.find? (·.head == word)

def ofTag? (word : String) : Option Kind :=
  all.find? (·.tag == word)

theorem ofHead?_head {kind : Kind} (directive : kind.isDirective) :
    ofHead? kind.head = some kind := by
  cases kind with
  | text => simp [isDirective] at directive
  | _ => rfl

@[simp] theorem ofTag?_tag (kind : Kind) : ofTag? kind.tag = some kind := by
  cases kind <;> rfl

end Kind
end InventoryIds
