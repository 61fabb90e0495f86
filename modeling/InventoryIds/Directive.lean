import InventoryIds.Directive.RandomCode
import InventoryIds.Directive.DatePattern
import InventoryIds.Directive.OrdinalWidth

/-!
# Directives

The parts of a format that are filled in when an identifier is made, how they are written
and how they are read.
-/

namespace InventoryIds

/-- A part of a format that is filled in for each identifier. -/
inductive Directive where
  | random (code : RandomCode)
  | guid
  | date (pattern : DatePattern)
  | sequence (width : OrdinalWidth)
deriving DecidableEq, Repr

namespace Directive

def kind : Directive → Kind
  | random _ => .random
  | guid => .guid
  | date _ => .date
  | sequence _ => .sequence

def argument? : Directive → Option String
  | random code => some code.bits.repr
  | guid => none
  | date pattern => some pattern.spelling
  | sequence width => width.explicit?.map Nat.repr

/-- A directive as it is written: its head and its argument between braces. -/
def canonical (directive : Directive) : String :=
  "\x7b" ++ directive.kind.head ++ (directive.argument?.elim "" (":" ++ ·)) ++ "\x7d"

/-- A directive takes a fresh draw of randomness. -/
def draws : Directive → Bool
  | random _ | guid => true
  | date _ | sequence _ => false

/-! ### Reading -/

/-- The largest number that an argument can mean; longer decimals mean this number. -/
def largestArgument : Nat := UInt32.size - 1

/-- Reads a decimal that is written in the shortest way. -/
def readNumber (argument : String) : Except ArgumentIssue Nat :=
  match argument.toList with
  | [] => .error (.notNumeric argument)
  | c :: cs =>
    if !(c :: cs).all Char.isDigit then .error (.notNumeric argument)
    else if c = '0' ∧ cs ≠ [] then .error (.leadingZero argument)
    else .ok (min (Nat.ofDigitChars 10 (c :: cs) 0) largestArgument)

/-- The argument that a directive has to have, and the arguments behind it. -/
def required : List String → Except ArgumentIssue (String × List String)
  | [] | "" :: _ => .error .missing
  | argument :: rest => .ok (argument, rest)

def readRandom (arguments : List String) : Except ArgumentIssue (Directive × List String) := do
  let (argument, rest) ← required arguments
  let code ← RandomCode.ofBits (← readNumber argument)
  return (random code, rest)

def readDate (arguments : List String) : Except ArgumentIssue (Directive × List String) := do
  let (argument, rest) ← required arguments
  let pattern ← DatePattern.ofSpelling argument
  return (date pattern, rest)

/-- Reads the width of an ordinal, which may be left out, but not left empty. -/
def readSequence : List String → Except ArgumentIssue (Directive × List String)
  | [] => .ok (sequence .standard, [])
  | arguments => do
    let (argument, rest) ← required arguments
    let width ← OrdinalWidth.ofNat (← readNumber argument)
    return (sequence width, rest)

/-- Refuses arguments that are left over, and places a fault of the arguments at the
directive. -/
def complete (kind : Kind) (offset : Nat) :
    Except ArgumentIssue (Directive × List String) → Except FormatError Directive
  | .ok (directive, []) => .ok directive
  | .ok (_, extra :: _) => .error (.invalidArgument kind offset (.unexpected extra))
  | .error issue => .error (.invalidArgument kind offset issue)

/-- Reads the directive at byte `offset` from its head and its arguments. -/
def ofFields (offset : Nat) (head : String) (arguments : List String) :
    Except FormatError Directive :=
  match Kind.ofHead? head with
  | some .random => complete .random offset (readRandom arguments)
  | some .guid => complete .guid offset (.ok (guid, arguments))
  | some .date => complete .date offset (readDate arguments)
  | some .sequence => complete .sequence offset (readSequence arguments)
  | some .text | none => .error (.unknownDirective head offset)

/-- Cuts a text at its colons: the first field, and the fields behind it. -/
def splitFields : List Char → List Char × List (List Char)
  | [] => ([], [])
  | c :: cs =>
    let (field, more) := splitFields cs
    if c = ':' then ([], field :: more) else (c :: field, more)

/-- Reads the directive at byte `offset` from the text between its braces. -/
def ofBody (offset : Nat) (body : List Char) : Except FormatError Directive :=
  match splitFields body with
  | ([], _) => .error (.malformedDirective offset)
  | (head, arguments) => ofFields offset (String.ofList head) (arguments.map String.ofList)

end Directive
end InventoryIds
