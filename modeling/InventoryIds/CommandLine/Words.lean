import InventoryIds.CommandLine.Settings

/-!
# Words

How the words in front of a command are read, and those behind it. A word that starts with a dash
is always taken for a setting, unless two dashes have announced that nothing but arguments
follows. A setting is looked at when the next one is met, so that of several faults the first one
in this order is reported.
-/

namespace InventoryIds.CommandLine

/-- A setting that has been met but not been looked at, with its value if that has been met. -/
structure Pending where
  setting : Setting
  value : Option (List Char)
deriving DecidableEq, Repr

/-- What has been read in front of the command, or behind it. -/
structure Reading where
  /-- The command that the words stand behind, if they do. -/
  verb : Option Verb
  values : List (Setting × UInt64) := []
  format : Option String := none
  pending : Option Pending := none
  argumentsOnly : Bool := false
deriving DecidableEq, Repr

namespace Reading

def value? (reading : Reading) (setting : Setting) : Option UInt64 :=
  reading.values.lookup setting

def awaitsValue (reading : Reading) : Bool :=
  match reading.pending with
  | some ⟨_, none⟩ => true
  | _ => false

def store (reading : Reading) (setting : Setting) (word : List Char) :
    Except Refusal Reading :=
  if (reading.value? setting).isSome then .error .repeatedSetting
  else
    match number? word with
    | some n => .ok { reading with values := (setting, n) :: reading.values }
    | none => .error .badValue

def settle (reading : Reading) : Except Refusal Reading :=
  match reading.pending with
  | none => .ok reading
  | some ⟨_, none⟩ => .error .missingValue
  | some ⟨setting, some word⟩ => { reading with pending := none }.store setting word

def meet (reading : Reading) (setting : Setting) (attached : Option (List Char)) :
    Except Refusal Reading := do
  let reading ← reading.settle
  match attached with
  | some word => reading.store setting word
  | none => return { reading with pending := some ⟨setting, none⟩ }

/-- Meets a flag that asks for something else than a command. -/
def divert (reading : Reading) (refusal : Refusal) : Except Refusal Reading := do
  let _ ← reading.settle
  throw refusal

/-- Cuts a flag at its first equals sign, behind which its value stands. -/
def splitValue (flag : List Char) : List Char × Option (List Char) :=
  match flag.dropWhile (· ≠ '=') with
  | [] => (flag, none)
  | _ :: value => (flag.takeWhile (· ≠ '='), some value)

def knowsVersion (reading : Reading) : Bool := reading.verb.isNone

def readLong (reading : Reading) (chars : List Char) : Except Refusal Reading :=
  let (name, attached) := splitValue chars
  let name := String.ofList name
  match (Setting.knownTo reading.verb).find? (·.flag == name) with
  | some setting => reading.meet setting attached
  | none =>
    if name = "help" then
      if attached.isSome then .error .surplusValue else reading.divert .help
    else if name = "version" ∧ reading.knowsVersion then
      if attached.isSome then .error .surplusValue else reading.divert .version
    else .error .unknownArgument

/-- Reads a flag behind its one dash. What follows its letter is its value, with or without an
equals sign. -/
def readShort (reading : Reading) (letter : Char) (rest : List Char) :
    Except Refusal Reading :=
  match (Setting.knownTo reading.verb).find? (·.letter? == some letter) with
  | some setting =>
    match rest with
    | [] => reading.meet setting none
    | '=' :: value => reading.meet setting (some value)
    | value => reading.meet setting (some value)
  | none =>
    if letter = 'h' then reading.divert .help
    else if letter = 'V' ∧ reading.knowsVersion then reading.divert .version
    else .error .unknownArgument

/-- Reads a word that is neither a flag nor a value: the format of a command, and nothing in
front of one. -/
def readArgument (reading : Reading) (word : String) : Except Refusal Reading :=
  match reading.verb with
  | some _ =>
    if reading.format.isSome then .error .unknownArgument
    else do
      let reading ← reading.settle
      return { reading with format := some word }
  | none =>
    if reading.argumentsOnly ∧ isCommand word then .error .unknownArgument
    else .error .unknownCommand

def read (reading : Reading) (word : String) : Except Refusal Reading :=
  if reading.argumentsOnly then reading.readArgument word
  else
    match word.toList with
    | ['-', '-'] => .ok { reading with argumentsOnly := true }
    | '-' :: '-' :: chars => reading.readLong chars
    | '-' :: letter :: rest => reading.readShort letter rest
    | chars =>
      match reading.pending with
      | some ⟨setting, none⟩ => .ok { reading with pending := some ⟨setting, some chars⟩ }
      | _ => reading.readArgument word

def expectsCommand (reading : Reading) : Bool :=
  reading.verb.isNone && !reading.argumentsOnly && !reading.awaitsValue

end Reading

end InventoryIds.CommandLine
