import Mathlib.Data.Set.Card
import InventoryIds.Counters.Ledger
import InventoryIds.Counters.Table
import InventoryIds.Proofs.CounterSteps

/-!
# Histories of counters

What a store answers is told by the calls on the same inventory alone: a counter stands at the
number that it was last restored to, or at zero, and as many further as it was reserved from
since. `run_empty_by_history` says so of both stores, and of stores that are shared.
-/

namespace InventoryIds

/-! ### Calls and answers -/

inductive CounterOperation where
  | reserve
  | current
  | restore (number : UInt64)
  | forget
deriving DecidableEq, Repr

structure CounterCall where
  inventory : InventoryId
  operation : CounterOperation
deriving DecidableEq, Repr

inductive CounterAnswer where
  | number (number : UInt64)
  | counter (number : Option UInt64)
  | done
deriving DecidableEq, Repr

namespace CounterStore
variable {σ : Type} [CounterStore σ]

def perform (store : σ) (call : CounterCall) : CounterAnswer × σ :=
  match call.operation with
  | .reserve =>
    let (number, store) := reserve store call.inventory
    (.number number, store)
  | .current => (.counter (current? store call.inventory), store)
  | .restore number => (.done, restore store call.inventory number)
  | .forget =>
    let (number, store) := forget store call.inventory
    (.counter number, store)

def run (store : σ) : List CounterCall → List CounterAnswer × σ
  | [] => ([], store)
  | call :: calls =>
    let (answer, store) := perform store call
    let (answers, store) := run store calls
    (answer :: answers, store)

end CounterStore

/-! ### Histories -/

namespace CounterOperation

def restored? : CounterOperation → Option UInt64
  | restore number => some number
  | _ => none

/-- The operation leaves a counter, whether there was one or not. -/
def creates (operation : CounterOperation) : Bool :=
  operation = reserve ∨ operation.restored?.isSome

end CounterOperation

/-- The operations on one inventory, last operation first. -/
abbrev CounterHistory := List CounterOperation

namespace CounterHistory

def sinceForget (history : CounterHistory) : List CounterOperation :=
  history.takeWhile (· ≠ .forget)

/-- The number that was last restored since the counter was forgotten, zero if none was. -/
def base (history : CounterHistory) : UInt64 :=
  (history.sinceForget.findSome? CounterOperation.restored?).getD 0

/-- How often was reserved since the counter was restored or forgotten. -/
def reserves (history : CounterHistory) : Nat :=
  (history.sinceForget.takeWhile (·.restored? = none)).count .reserve

def number (history : CounterHistory) : UInt64 :=
  UInt64.ofNat ((history.base.toNat + history.reserves) % 2 ^ 64)

def counter? (history : CounterHistory) : Option UInt64 :=
  if history.sinceForget.any CounterOperation.creates then some history.number else none

def answer (history : CounterHistory) : CounterOperation → CounterAnswer
  | .reserve => .number history.number
  | .current | .forget => .counter history.counter?
  | .restore _ => .done

end CounterHistory

def historyOf (inventory : InventoryId) (calls : List CounterCall) : CounterHistory :=
  ((calls.filter (·.inventory = inventory)).map CounterCall.operation).reverse

/-- What calls answer, each by the calls on its own inventory that stand in front of it. -/
def answersOf (calls : List CounterCall) : List CounterAnswer :=
  calls.mapIdx fun k call => (historyOf call.inventory (calls.take k)).answer call.operation

/-! ### One operation more -/

def CounterOperation.step? : CounterOperation → Option CounterStep
  | reserve => some .reserve
  | current => none
  | restore number => some (.restore number)
  | forget => some .forget

namespace CounterHistory

theorem toNat_number (history : CounterHistory) :
    history.number.toNat = (history.base.toNat + history.reserves) % 2 ^ 64 := by
  rw [number, UInt64.toNat_ofNat', Nat.mod_mod]

theorem number_reserve (history : CounterHistory) :
    number (.reserve :: history) = history.number + 1 := by
  have base : base (.reserve :: history) = history.base := rfl
  have reserves : reserves (.reserve :: history) = history.reserves + 1 := List.count_cons_self
  rw [← UInt64.toNat_inj, UInt64.toNat_add, toNat_number, toNat_number, base, reserves,
    UInt64.toNat_one]
  omega

theorem number_current (history : CounterHistory) :
    number (.current :: history) = history.number := by
  have base : base (.current :: history) = history.base := rfl
  have reserves : reserves (.current :: history) = history.reserves :=
    List.count_cons_of_ne (by decide)
  rw [number, base, reserves]
  rfl

theorem number_restore (number : UInt64) (history : CounterHistory) :
    CounterHistory.number (.restore number :: history) = number := by
  have base : base (.restore number :: history) = number := rfl
  have reserves : reserves (.restore number :: history) = 0 := rfl
  rw [← UInt64.toNat_inj, toNat_number, base, reserves, Nat.add_zero]
  exact Nat.mod_eq_of_lt number.toNat_lt

theorem number_eq_getD (history : CounterHistory) : history.number = history.counter?.getD 0 := by
  unfold counter?
  split
  · rfl
  · -- Nothing was restored or reserved, so nothing is counted.
    rename_i missing
    have quiet : ∀ operation ∈ history.sinceForget, operation.creates = false := by
      simpa using missing
    have base : history.base = 0 := by
      have none : history.sinceForget.findSome? CounterOperation.restored? = none := by
        rw [List.findSome?_eq_none_iff]
        intro operation member
        have still := quiet operation member
        cases operation with
        | restore number => cases still
        | _ => rfl
      rw [CounterHistory.base, none, Option.getD_none]
    have reserves : history.reserves = 0 := by
      rw [CounterHistory.reserves, List.count_eq_zero]
      intro member
      cases quiet _ ((List.takeWhile_prefix _).subset member)
    rw [number, base, reserves]
    rfl

/-- One operation more does to the counter what it does to a counter of a store. -/
theorem counter?_cons (operation : CounterOperation) (history : CounterHistory) :
    counter? (operation :: history) = counterAfter history.counter? operation.step? := by
  cases operation with
  | reserve =>
    have present : counter? (.reserve :: history) = some (number (.reserve :: history)) := rfl
    rw [present, number_reserve, number_eq_getD]
    rfl
  | current =>
    have same : counter? (.current :: history) =
        if history.sinceForget.any CounterOperation.creates then some (number (.current :: history))
        else none := rfl
    rw [same, number_current]
    rfl
  | restore number =>
    have present : counter? (.restore number :: history) =
        some (CounterHistory.number (.restore number :: history)) := rfl
    rw [present, number_restore]
    rfl
  | forget => rfl

end CounterHistory

theorem historyOf_concat (inventory : InventoryId) (past : List CounterCall) (call : CounterCall) :
    historyOf inventory (past ++ [call]) =
      if call.inventory = inventory then call.operation :: historyOf inventory past
      else historyOf inventory past := by
  unfold historyOf
  rw [List.filter_append]
  by_cases own : call.inventory = inventory <;> simp [own]

/-! ### Runs -/

namespace CounterStore
variable {σ : Type} [CounterStore σ]

/-- Every counter of the store is the one that its history tells. -/
def Follows (store : σ) (past : List CounterCall) : Prop :=
  ∀ i, current? store i = (historyOf i past).counter?

variable [LawfulCounterStore σ]

theorem follows_empty : Follows (empty : σ) [] :=
  fun i => LawfulCounterStore.current?_empty i

theorem current?_perform (store : σ) (call : CounterCall) (i : InventoryId) :
    current? (perform store call).2 i =
      counterAfter (current? store i)
        (if call.inventory = i then call.operation.step? else none) := by
  obtain ⟨inventory, operation⟩ := call
  cases operation with
  | reserve => exact current?_change store inventory i .reserve
  | current =>
    rw [CounterOperation.step?, ite_self]
    rfl
  | restore number => exact current?_change store inventory i (.restore number)
  | forget => exact current?_change store inventory i .forget

theorem perform_of_follows {store : σ} {past : List CounterCall} (follows : Follows store past)
    (call : CounterCall) :
    (perform store call).1 = (historyOf call.inventory past).answer call.operation ∧
      Follows (perform store call).2 (past ++ [call]) := by
  constructor
  · obtain ⟨inventory, operation⟩ := call
    have counter := follows inventory
    cases operation with
    | reserve =>
      rw [CounterHistory.answer, CounterHistory.number_eq_getD, ← counter]
      exact congrArg CounterAnswer.number (LawfulCounterStore.reserve_fst store inventory)
    | current => exact congrArg CounterAnswer.counter counter
    | restore number => rfl
    | forget =>
      rw [CounterHistory.answer, ← counter]
      exact congrArg CounterAnswer.counter (LawfulCounterStore.forget_fst store inventory)
  · intro i
    rw [current?_perform, historyOf_concat, follows i]
    by_cases own : call.inventory = i
    · rw [if_pos own, if_pos own, CounterHistory.counter?_cons]
    · rw [if_neg own, if_neg own, counterAfter]

theorem run_of_follows {store : σ} {past : List CounterCall} (follows : Follows store past)
    (calls : List CounterCall) :
    (run store calls).1 = (calls.mapIdx fun k call =>
        (historyOf call.inventory (past ++ calls.take k)).answer call.operation) ∧
      Follows (run store calls).2 (past ++ calls) := by
  -- What has been performed moves from the calls to the past, one call at a time.
  induction calls generalizing store past with
  | nil =>
    rw [List.append_nil]
    exact ⟨rfl, follows⟩
  | cons call calls ih =>
    obtain ⟨answer, followsNext⟩ := perform_of_follows follows call
    obtain ⟨answers, followsEnd⟩ := ih followsNext
    rw [List.append_assoc, List.singleton_append] at followsEnd
    refine ⟨?_, followsEnd⟩
    rw [run, List.mapIdx_cons, List.take_zero, List.append_nil, ← answer]
    dsimp only
    rw [answers]
    simp

/-- Looking at a counter, and forgetting one that is missing, changes no counter. -/
theorem current?_perform_of_idle {store : σ} {call : CounterCall}
    (idle : call.operation = .current ∨
      call.operation = .forget ∧ current? store call.inventory = none) (i : InventoryId) :
    current? (perform store call).2 i = current? store i := by
  rw [current?_perform]
  split
  · rename_i own
    subst own
    rcases idle with look | ⟨forget, missing⟩
    · rw [look]
      rfl
    · rw [forget, missing]
      rfl
  · rfl

end CounterStore

namespace SharedStore
variable {σ : Type} [CounterStore σ]

theorem perform_eq (store : σ) (call : CounterCall) :
    CounterStore.perform (mk store) call =
      ((CounterStore.perform store call).1, mk (CounterStore.perform store call).2) := by
  obtain ⟨inventory, operation⟩ := call
  cases operation <;> rfl

theorem run_eq (store : σ) (calls : List CounterCall) :
    CounterStore.run (mk store) calls =
      ((CounterStore.run store calls).1, mk (CounterStore.run store calls).2) := by
  induction calls generalizing store with
  | nil => rfl
  | cons call calls ih =>
    simp only [CounterStore.run, perform_eq, ih]

end SharedStore

namespace CounterLedger

theorem isSome_lookup?_iff {i : InventoryId} {entries : List (InventoryId × UInt64)} :
    (lookup? i entries).isSome ↔ i ∈ inventories entries := by
  induction entries with
  | nil => simp [lookup?, inventories]
  | cons entry entries ih =>
    obtain ⟨key, number⟩ := entry
    rw [lookup?, inventories, List.map_cons, List.mem_cons]
    by_cases own : key = i
    · simp [own]
    · rw [if_neg own, ih]
      exact (or_iff_right (Ne.symm own)).symm

/-- The size of a ledger is the number of inventories with a counter. -/
theorem encard_current? (ledger : CounterLedger) :
    {i | (ledger.current? i).isSome}.encard = ledger.size := by
  have keys : {i | (ledger.current? i).isSome} =
      ((inventories ledger.entries).toFinset : Set InventoryId) := by
    ext i
    simp [current?, isSome_lookup?_iff]
  rw [keys, Set.encard_coe_eq_coe_finsetCard, List.toFinset_card_of_nodup ledger.nodup]
  simp [inventories, size]

end CounterLedger

namespace CounterStore

/-- What calls on a store without counters answer is told by their histories, and so are the
counters that they leave; calls that should create no counter create none. -/
structure AnswersByHistory (σ : Type) [CounterStore σ] (calls : List CounterCall) : Prop where
  answers : (run (empty : σ) calls).1 = answersOf calls
  counters : ∀ i, current? (run (empty : σ) calls).2 i = (historyOf i calls).counter?
  idle : ∀ call : CounterCall, call.operation = .current ∨ call.operation = .forget ∧
      current? (run (empty : σ) calls).2 call.inventory = none →
    ∀ i, current? (perform (run (empty : σ) calls).2 call).2 i =
      current? (run (empty : σ) calls).2 i

theorem answersByHistory (σ : Type) [CounterStore σ] [LawfulCounterStore σ]
    (calls : List CounterCall) : AnswersByHistory σ calls := by
  obtain ⟨answers, follows⟩ := run_of_follows (follows_empty (σ := σ)) calls
  exact ⟨answers, follows, fun _ idle => current?_perform_of_idle idle⟩

/-- Both stores answer by the histories of the inventories, shared or not, and the size of the
ledger is the number of inventories that have a counter. -/
theorem run_empty_by_history (calls : List CounterCall) :
    AnswersByHistory CounterLedger calls ∧ AnswersByHistory CounterTable calls ∧
    (run (empty : CounterLedger) calls).1 = (run (empty : CounterTable) calls).1 ∧
    (∀ (σ : Type) [CounterStore σ] (store : σ), run (SharedStore.mk store) calls =
      ((run store calls).1, SharedStore.mk (run store calls).2)) ∧
    {i | (current? (run (empty : CounterLedger) calls).2 i).isSome}.encard =
      (run (empty : CounterLedger) calls).2.size := by
  have ledger := answersByHistory CounterLedger calls
  have table := answersByHistory CounterTable calls
  refine ⟨ledger, table, ledger.answers.trans table.answers.symm, ?shared, ?size⟩
  case shared => exact fun σ _ store => SharedStore.run_eq store calls
  case size => exact CounterLedger.encard_current? _

example :
    (run (empty : CounterLedger) [⟨⟨1⟩, .restore 18446744073709551615⟩, ⟨⟨1⟩, .reserve⟩,
      ⟨⟨2⟩, .current⟩, ⟨⟨1⟩, .reserve⟩, ⟨⟨1⟩, .forget⟩, ⟨⟨1⟩, .current⟩]).1 =
    [.done, .number 18446744073709551615, .counter none, .number 0, .counter (some 1),
      .counter none] := by
  decide

end CounterStore
end InventoryIds
