import InventoryIds.CommandLine.Invocation
import InventoryIds.CommandLine.Words

/-!
# Arguments

How a whole command line is read. Settings stand in front of the command or behind it; what stands
behind it is completed first. Settings that are not given are taken from the environment, and from
the standard values at last.
-/

namespace InventoryIds.CommandLine

abbrev Environment := String → Option String

namespace Environment

def setting? (environment : Environment) (setting : Setting) : Except Refusal (Option UInt64) :=
  match setting.environmentName?.bind environment with
  | none => .ok none
  | some word =>
    match number? word.toList with
    | some n => .ok (some n)
    | none => .error .badValue

/-- Looks at the settings of the environment that are known at a place and not given there. -/
def check (environment : Environment) (reading : Reading) : Except Refusal Unit :=
  ((Setting.knownTo reading.verb).filter fun setting => (reading.value? setting).isNone).forM
    fun setting => do
      let _ ← environment.setting? setting
      return ()

/-- A setting that is known in front of a command is set. -/
def isSetFor (environment : Environment) (reading : Reading) : Bool :=
  (Setting.knownTo reading.verb).any fun setting =>
    (setting.environmentName?.bind environment).isSome

end Environment

/-! ### Whole command lines -/

structure CommandWords where
  verb : Verb
  format : String
  reading : Reading
deriving Repr

def CommandWords.ofReading (environment : Environment) (verb : Verb) (reading : Reading) :
    Except Refusal CommandWords := do
  let reading ← reading.settle
  environment.check reading
  match reading.format with
  | some format => return { verb, format, reading }
  | none => throw .missingFormat

/-- The value of a setting: behind the command, in front of it, in the environment, or the
standard one. -/
def settingValue (environment : Environment) (front : Reading) (behind : Reading)
    (setting : Setting) : Except Refusal (Option UInt64) :=
  match behind.value? setting with
  | some n => .ok (some n)
  | none =>
    match front.value? setting with
    | some n => .ok (some n)
    | none => environment.setting? setting

def Invocation.ofWords (environment : Environment) (front : Reading) (words : CommandWords) :
    Except Refusal Invocation := do
  let value := settingValue environment front words.reading
  let standard : Policy := {}
  let limits : Policy :=
    { maxPerKind := (← value .maxPerKind).getD standard.maxPerKind
      maxTokens := (← value .maxTokens).getD standard.maxTokens
      previewExamples := (← value .previewExamples).getD standard.previewExamples }
  match words.verb with
  | .preview => return { limits, command := .preview words.format }
  | .check => return { limits, command := .check words.format }
  | .generate =>
    let inventory := (← value .inventory).getD 1
    let count := (← value .count).getD 1
    let start ← value .start
    return { limits, command := .generate words.format ⟨inventory⟩ count.toNat start }

/-- Shows help on the command that the words name, one below the other; commands have none below
them. -/
def helpOn : List String → Refusal
  | [] => .help
  | [word] => if isCommand word then .help else .unknownCommand
  | _ => .unknownCommand

def withoutCommand (environment : Environment) (front : Reading) : Except Refusal Invocation := do
  let front ← front.settle
  environment.check front
  if front.values.isEmpty ∧ !environment.isSetFor front then throw .nothingGiven
  else throw .missingCommand

def withCommand (environment : Environment) (front : Reading) (words : CommandWords) :
    Except Refusal Invocation := do
  let front ← front.settle
  environment.check front
  Invocation.ofWords environment front words

/-- Reads the words in front of a command, and those behind it. -/
def readFront (environment : Environment) (front : Reading) :
    List String → Except Refusal Invocation
  | [] => withoutCommand environment front
  | word :: words =>
    if front.expectsCommand ∧ word = helpCommand then .error (helpOn words)
    else
      match if front.expectsCommand then Verb.ofName? word else none with
      | some verb => do
        let behind ← words.foldlM Reading.read { verb := some verb }
        withCommand environment front (← CommandWords.ofReading environment verb behind)
      | none => do
        let front ← front.read word
        readFront environment front words

def Invocation.ofArguments (environment : Environment) (words : List String) :
    Except Refusal Invocation :=
  readFront environment { verb := none } words

end InventoryIds.CommandLine
