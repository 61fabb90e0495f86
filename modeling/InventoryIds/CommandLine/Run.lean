import InventoryIds.CommandLine.Invocation
import InventoryIds.Counters.Table
import InventoryIds.Exchange.Previews
import InventoryIds.Exchange.Tokens

/-!
# Carrying out commands

What the commands put out: a preview as JSON, identifiers line by line, or a report on a format.
-/

namespace InventoryIds.CommandLine

structure Outcome where
  output : String
  success : Bool
deriving DecidableEq, Repr

/-! ### Reports -/

inductive Report where
  | accepted (format : Format)
  | rejected (error : FormatError)
deriving DecidableEq, Repr

def check (text : String) (policy : Policy) : Report :=
  match Format.compile text policy with
  | .ok format => .accepted format
  | .error error => .rejected error

def errorClass (error : FormatError) : String :=
  match error with
  | .invalidArgument _ _ _ => "argument"
  | _ => if error.isLimitError then "limit" else "syntax"

namespace Report

def success : Report → Bool
  | accepted _ => true
  | rejected _ => false

def toJson : Report → Json
  | accepted format =>
    .object [("valid", .bool true), ("canonical", .string format.canonical),
      ("tokens", format.toJson)]
  | rejected error =>
    .object [("valid", .bool false), ("class", .string (errorClass error)),
      ("error", .string error.message)]

def outcome (report : Report) : Outcome where
  output := report.toJson.sorted.pretty
  success := report.success

end Report

/-! ### Commands -/

/-- Makes `count` identifiers, one to a line, from an ordinal on if `seed` sets one. -/
def generate {σ : Type} [CounterStore σ] (mint : Mint σ) (text : String)
    (inventory : InventoryId) (count : Nat) (seed : Option UInt64) :
    Except FormatError Outcome := do
  let format ← mint.compile text
  let store :=
    match seed with
    | some number => CounterStore.restore mint.store inventory number
    | none => mint.store
  let (identifiers, _) := { mint with store }.identifiers inventory format count
  return { output := "\n".intercalate identifiers, success := true }

def preview {σ : Type} [CounterStore σ] (mint : Mint σ) (text : String) :
    Except FormatError Outcome := do
  let preview ← (mint.preview text).1
  return { output := preview.toJson.pretty, success := true }

def Config.draws (config : Config) : Nat :=
  let perIdentifier (text : String) : Nat :=
    match Format.compile text config.policy with
    | .ok format => format.draws
    | .error _ => 0
  match config.action with
  | .preview text => (config.policy.previewExamples.toNat + 1) * perIdentifier text
  | .generate text _ count _ => count * perIdentifier text
  | .check _ => 0

/-- Carries out an action, with no counters to begin with. -/
def run (config : Config) (clock : Feed Instant) (draws : Feed Draw) :
    Except FormatError Outcome :=
  let mint : Mint CounterTable :=
    { policy := config.policy, store := CounterTable.empty, clock, draws }
  match config.action with
  | .preview text => preview mint text
  | .generate text inventory count seed => generate mint text inventory count seed
  | .check text => .ok (check text config.policy).outcome

end InventoryIds.CommandLine
