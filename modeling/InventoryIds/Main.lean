import Std.Time.DateTime.Timestamp
import InventoryIds.CommandLine.Run
import InventoryIds.CommandLine.Usage

/-!
# The program

Reads the arguments and the environment, takes the time and as much randomness as the command
needs, and puts out what the command gives.
-/

namespace InventoryIds.CommandLine

def currentEnvironment : IO Environment := do
  let names := Setting.all.filterMap Setting.environmentName?
  let values ← names.mapM fun name => return (name, ← IO.getEnv name)
  return fun name => (values.lookup name).join

def currentInstant : IO Instant := do
  let nanos := (← Std.Time.Timestamp.now).toNanosecondsSinceUnixEpoch.val
  let second : Int := Instant.nanosPerSecond
  return { seconds := nanos / second, nanos := Fin.ofNat _ (nanos % second).toNat }

def freshDraws (count : Nat) : IO (Feed Draw) := do
  let bytes ← IO.getRandomBytes (USize.ofNat (16 * count))
  let byte (i : Nat) : Draw := BitVec.ofNat 128 (bytes.data.getD i 0).toNat
  let draw (n : Nat) : Draw :=
    (List.range 16).foldl (fun draw i => draw <<< 8 ||| byte (16 * n + i)) 0
  return { source := draw }

/-- Carries out a configuration, now; the result is the exit code. -/
def execute (config : Config) : IO UInt32 := do
  let clock := Feed.const (← currentInstant)
  let draws ← freshDraws config.draws
  match run config clock draws with
  | .ok outcome =>
    IO.println outcome.output
    return if outcome.success then 0 else 1
  | .error error =>
    IO.eprintln ("Error: " ++ error.message)
    return 1

end InventoryIds.CommandLine

open InventoryIds.CommandLine in
def main (words : List String) : IO UInt32 := do
  match Invocation.ofArguments (← currentEnvironment) words with
  | .error refusal =>
    if refusal.isRequest then
      IO.println refusal.message
      return 0
    else
      IO.eprintln refusal.message
      return 2
  | .ok invocation =>
    match Config.ofInvocation invocation with
    | .error error =>
      IO.eprintln ("Error: " ++ error.message)
      return 1
    | .ok config => execute config
