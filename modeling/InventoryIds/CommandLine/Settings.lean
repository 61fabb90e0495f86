/-!
# Settings

The commands and the settings of a command line, by their names, the values of settings, and the
reasons for which a command line is refused.
-/

namespace InventoryIds.CommandLine

/-- Why the words of a command line do not make an invocation, or what is asked for instead. -/
inductive Refusal where
  /-- A flag that is not known here, or an argument too many. -/
  | unknownArgument
  /-- A value that is no number in range. -/
  | badValue
  | missingValue
  /-- A value for a flag that takes none. -/
  | surplusValue
  | repeatedSetting
  | missingFormat
  | unknownCommand
  | missingCommand
  | nothingGiven
  | help
  | version
deriving DecidableEq, Repr

inductive Setting where
  | maxPerKind
  | maxTokens
  | previewExamples
  | inventory
  | count
  | start
deriving DecidableEq, Repr

inductive Verb where
  | preview
  | generate
  | check
deriving DecidableEq, Repr

namespace Verb

def all : List Verb := [preview, generate, check]

def name : Verb → String
  | preview => "preview"
  | generate => "generate"
  | check => "check"

def ofName? (word : String) : Option Verb := all.find? (·.name == word)

end Verb

def helpCommand : String := "help"

def isCommand (word : String) : Bool := word == helpCommand || (Verb.ofName? word).isSome

namespace Setting

def all : List Setting := [maxPerKind, maxTokens, previewExamples, inventory, count, start]

def flag : Setting → String
  | maxPerKind => "max-per-kind"
  | maxTokens => "max-tokens"
  | previewExamples => "preview-examples"
  | inventory => "inventory"
  | count => "count"
  | start => "start"

def letter? : Setting → Option Char
  | count => some 'n'
  | _ => none

def environmentName? : Setting → Option String
  | maxPerKind => some "IDFMT_MAX_PER_KIND"
  | maxTokens => some "IDFMT_MAX_TOKENS"
  | previewExamples => some "IDFMT_PREVIEW_EXAMPLES"
  | inventory => some "IDFMT_INVENTORY"
  | count | start => none

/-- A setting that may be given anywhere. -/
def isGlobal : Setting → Bool
  | maxPerKind | maxTokens | previewExamples => true
  | inventory | count | start => false

/-- The settings known in front of the command (`none`) or behind it. -/
def knownTo : Option Verb → List Setting
  | some .generate => all
  | _ => all.filter isGlobal

end Setting

def numberBound : Nat := UInt64.size

/-- Reads a number, with or without a plus sign. -/
def number? (word : List Char) : Option UInt64 :=
  let digits := match word with
    | '+' :: rest => rest
    | _ => word
  if digits.isEmpty || !digits.all Char.isDigit then none
  else
    let n := Nat.ofDigitChars 10 digits 0
    if n < numberBound then some (UInt64.ofNat n) else none

end InventoryIds.CommandLine
