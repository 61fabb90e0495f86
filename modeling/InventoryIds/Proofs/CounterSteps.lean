import InventoryIds.Counters

/-!
# Steps of counters

What an operation on a store does to one counter. `current?_change` says that it is done to the
counter of its own inventory, and to no other.
-/

namespace InventoryIds

inductive CounterStep where
  | reserve
  | restore (number : UInt64)
  | forget
deriving DecidableEq, Repr

/-- The counter after a change; a counter that is missing counts from zero. -/
def CounterStep.after (counter : Option UInt64) : CounterStep → Option UInt64
  | reserve => some (counter.getD 0 + 1)
  | restore number => some number
  | forget => none

theorem CounterStep.after_reserve_ne (counter : Option UInt64) :
    reserve.after counter ≠ counter := by
  cases counter with
  | none => exact nofun
  | some number => simp [after]

def counterAfter (counter : Option UInt64) : Option CounterStep → Option UInt64
  | some step => step.after counter
  | none => counter

namespace CounterStore
variable {σ : Type} [CounterStore σ]

def change (store : σ) (inventory : InventoryId) : CounterStep → σ
  | .reserve => (reserve store inventory).2
  | .restore number => restore store inventory number
  | .forget => (forget store inventory).2

/-- A change is one of the counter of its own inventory, and of no other. -/
theorem current?_change [LawfulCounterStore σ] (store : σ) (i j : InventoryId)
    (step : CounterStep) :
    current? (change store i step) j =
      counterAfter (current? store j) (if i = j then some step else none) := by
  have law : current? (change store i step) j =
      if i = j then step.after (current? store i) else current? store j := by
    cases step with
    | reserve => exact LawfulCounterStore.current?_reserve store i j
    | restore number => exact LawfulCounterStore.current?_restore store i j number
    | forget => exact LawfulCounterStore.current?_forget store i j
  rw [law]
  by_cases own : i = j
  · subst own
    rw [if_pos rfl, if_pos rfl, counterAfter]
  · rw [if_neg own, if_neg own, counterAfter]

end CounterStore
end InventoryIds
