import InventoryIds.Inventory
import InventoryIds.Policy

/-!
# Invocations

What a command line asks for, and the checks that turn it into a configuration: limits that make
sense together, a number of identifiers within bounds, and a first ordinal that exists.
-/

namespace InventoryIds.CommandLine

inductive Command where
  | preview (format : String)
  | generate (format : String) (inventory : InventoryId) (count : Nat) (start : Option UInt64)
  | check (format : String)
deriving DecidableEq, Repr

structure Invocation where
  limits : Policy
  command : Command
deriving DecidableEq, Repr

inductive Action where
  | preview (format : String)
  /-- The counter of the inventory is set to `seed` first, if there is one. -/
  | generate (format : String) (inventory : InventoryId) (count : Nat) (seed : Option UInt64)
  | check (format : String)
deriving DecidableEq, Repr

structure Config where
  policy : Policy
  action : Action
deriving DecidableEq, Repr

inductive ConfigError where
  | noneOfKind
  | noTokens
  | perKindExceedsTokens (maxPerKind maxTokens : Nat)
  | countOutOfRange (count : Nat)
  | noStart
deriving DecidableEq, Repr

def maxCount : Nat := 100000

def ConfigError.message : ConfigError → String
  | noneOfKind => "IDFMT_MAX_PER_KIND must be greater than 0"
  | noTokens => "IDFMT_MAX_TOKENS must be greater than 0"
  | perKindExceedsTokens maxPerKind maxTokens =>
    "IDFMT_MAX_PER_KIND (" ++ maxPerKind.repr ++ ") exceeds IDFMT_MAX_TOKENS (" ++
      maxTokens.repr ++ ")"
  | countOutOfRange count =>
    "--count must be between 1 and " ++ maxCount.repr ++ " (got " ++ count.repr ++ ")"
  | noStart => "--start must be at least 1"

/-- The limits allow at least one directive, and no more of a kind than there may be tokens. -/
def checkLimits (limits : Policy) : Except ConfigError Unit :=
  if limits.maxPerKind = 0 then .error .noneOfKind
  else if limits.maxTokens = 0 then .error .noTokens
  else if limits.maxTokens < limits.maxPerKind then
    .error (.perKindExceedsTokens limits.maxPerKind.toNat limits.maxTokens.toNat)
  else .ok ()

/-- The number that a counter has to be set to for the ordinal `start`. -/
def seedOf : Option UInt64 → Except ConfigError (Option UInt64)
  | none => .ok none
  | some start => if start = 0 then .error .noStart else .ok (some (start - 1))

def Action.ofCommand : Command → Except ConfigError Action
  | .preview format => .ok (preview format)
  | .check format => .ok (check format)
  | .generate format inventory count start =>
    if count = 0 ∨ maxCount < count then .error (.countOutOfRange count)
    else do
      let seed ← seedOf start
      return generate format inventory count seed

def Config.ofInvocation (invocation : Invocation) : Except ConfigError Config := do
  checkLimits invocation.limits
  let action ← Action.ofCommand invocation.command
  return { policy := invocation.limits, action }

end InventoryIds.CommandLine
