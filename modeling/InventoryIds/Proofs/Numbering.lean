import Mathlib.Data.List.Forall2
import Mathlib.Data.List.Nodup
import InventoryIds.Counters.Ledger
import InventoryIds.Proofs.CallEffects

/-!
# Numbering

The numbers of an inventory depend on the calls that count for it and on no others: without the
other calls, the same numbers are reserved and shown. From a restored number on, the ordinals are
the ones that follow it, one after the other, and start over behind the last one
(`numbering_of_counted_calls`).
-/

namespace InventoryIds

namespace Call

/-- The call takes a number of an inventory, or sets or drops its counter. -/
def counts (policy : Policy) (inventory : InventoryId) : Call → Bool
  | generate i text =>
    i = inventory && (Format.compile text policy).toOption.any Format.hasSequence
  | generateFormat i format => i = inventory && format.hasSequence
  | reserve i | restore i _ | forget i => i = inventory
  | preview _ | previewFormat _ | compile _ | current _ => false

/-- The call sets or drops the counter of an inventory. -/
def resets (inventory : InventoryId) : Call → Bool
  | restore i _ | forget i => i = inventory
  | _ => false

variable {policy : Policy} {inventory : InventoryId}

theorem isSome_step?_iff {call : Call} :
    (call.step? policy inventory).isSome ↔ call.counts policy inventory := by
  cases call with
  | generate i text =>
    cases compiled : Format.compile text policy with
    | ok format => simp [step?, target?, counts, compiled, Except.toOption]
    | error error => simp [step?, target?, counts, compiled, Except.toOption]
  | generateFormat i format => simp [step?, target?, counts]
  | reserve i | restore i number | forget i => simp [step?, counts]
  | preview text | previewFormat format | compile text | current i => rfl

theorem counts_of_step? {call : Call} {step : CounterStep}
    (found : call.step? policy inventory = some step) : call.counts policy inventory := by
  rw [← isSome_step?_iff, found, Option.isSome_some]

theorem step?_of_not_counts {call : Call} (other : ¬call.counts policy inventory) :
    call.step? policy inventory = none := by
  rw [← isSome_step?_iff] at other
  exact Option.not_isSome_iff_eq_none.mp other

theorem cases_of_counts {call : Call} (counted : call.counts policy inventory)
    (target : call.target? policy = none) :
    call = .reserve inventory ∨ (∃ number, call = .restore inventory number) ∨
      call = .forget inventory := by
  cases call with
  | reserve i => exact .inl (congrArg reserve (of_decide_eq_true counted))
  | restore i number =>
    obtain rfl : i = inventory := of_decide_eq_true counted
    exact .inr (.inl ⟨number, rfl⟩)
  | forget i => exact .inr (.inr (congrArg forget (of_decide_eq_true counted)))
  | _ =>
    have step := isSome_step?_iff.mpr counted
    simp only [step?, target, Option.isSome_none, Bool.false_eq_true] at step

theorem step?_of_target_of_counts {call : Call} {made : InventoryId × Format}
    (target : call.target? policy = some made) (counted : call.counts policy inventory) :
    call.step? policy inventory = some .reserve := by
  have step := isSome_step?_iff.mpr counted
  rw [step?_of_target target] at step ⊢
  exact if_pos (Option.isSome_ite.mp step)

theorem step?_of_counts {call : Call} (counted : call.counts policy inventory)
    (quiet : ¬call.resets inventory) : call.step? policy inventory = some .reserve := by
  cases target : call.target? policy with
  | some made => exact step?_of_target_of_counts target counted
  | none =>
    rcases cases_of_counts counted target with rfl | ⟨number, rfl⟩ | rfl
    · exact if_pos rfl
    · exact absurd counted quiet
    · exact absurd counted quiet

end Call

/-! ### Runs call by call -/

/-- A call of a run: the mint it is performed on, and what it gives back. -/
structure Performed (σ : Type) where
  mint : Mint σ
  call : Call
  answer : Answer

namespace Performed
variable {σ : Type}

/-- The ordinal in the identifier that is made, or of the number that is taken. -/
def Shows (performed : Performed σ) (ordinal : Nat) : Prop :=
  match performed.call.target? performed.mint.policy with
  | some (_, format) =>
    performed.answer = .identifier (shownTokensAt performed.mint.clock.head ordinal format.tokens
      performed.mint.draws)
  | none => ∃ number, performed.answer = .number number ∧ ordinal = number.toNat + 1

/-- The same call with the same outcome for the numbers: identifiers show the same ordinal, and
everything else that is given back is the same. -/
structure SameNumbers (performed other : Performed σ) : Prop where
  call : performed.call = other.call
  answer : performed.call.target? performed.mint.policy = none → performed.answer = other.answer
  ordinal : performed.call.target? performed.mint.policy ≠ none →
    ∃ ordinal, performed.Shows ordinal ∧ other.Shows ordinal

end Performed

namespace Mint
variable {σ : Type} [CounterStore σ]

def performed (mint : Mint σ) : List Call → List (Performed σ)
  | [] => []
  | call :: calls => ⟨mint, call, (mint.perform call).1⟩ :: (mint.perform call).2.performed calls

theorem map_answer_performed (mint : Mint σ) (calls : List Call) :
    (mint.performed calls).map Performed.answer = (mint.run calls).1 := by
  induction calls generalizing mint with
  | nil => rfl
  | cons call calls ih => exact congrArg ((mint.perform call).1 :: ·) (ih (mint.perform call).2)

def counted (mint : Mint σ) (inventory : InventoryId) (calls : List Call) :
    List (Performed σ) :=
  (mint.performed calls).filter (·.call.counts mint.policy inventory)

variable {mint other : Mint σ} {inventory : InventoryId} {call : Call}

theorem counted_cons_of_counts (counts : call.counts mint.policy inventory) (calls : List Call) :
    mint.counted inventory (call :: calls) =
      ⟨mint, call, (mint.perform call).1⟩ :: (mint.perform call).2.counted inventory calls := by
  rw [counted, counted, perform_policy, performed]
  exact List.filter_cons_of_pos counts

theorem counted_cons_of_not_counts (counts : ¬call.counts mint.policy inventory)
    (calls : List Call) :
    mint.counted inventory (call :: calls) = (mint.perform call).2.counted inventory calls := by
  rw [counted, counted, perform_policy, performed]
  exact List.filter_cons_of_neg counts

variable [LawfulCounterStore σ]

/-- A call that takes a number shows the ordinal behind the counter. -/
theorem shows_of_reserve (step : call.step? mint.policy inventory = some .reserve) :
    Performed.Shows ⟨mint, call, (mint.perform call).1⟩
      ((mint.counter inventory).toNat + 1) := by
  unfold Performed.Shows
  cases target : call.target? mint.policy with
  | some made =>
    obtain ⟨i, format⟩ := made
    have own : i = inventory ∧ format.hasSequence := by
      by_contra other
      rw [Call.step?_of_target target, if_neg other] at step
      cases step
    rw [perform_of_target target, ← own.1, nextIdentifier_eq]
  | none =>
    rcases Call.cases_of_counts (Call.counts_of_step? step) target with rfl | ⟨number, rfl⟩ | rfl
    · have number := LawfulCounterStore.reserve_fst mint.store inventory
      exact ⟨mint.counter inventory, congrArg Answer.number number, rfl⟩
    · cases (if_pos rfl).symm.trans step
    · cases (if_pos rfl).symm.trans step

theorem perform_fst_eq_of_current?
    (counter : CounterStore.current? other.store inventory =
      CounterStore.current? mint.store inventory)
    (counts : call.counts mint.policy inventory) (target : call.target? mint.policy = none) :
    (mint.perform call).1 = (other.perform call).1 := by
  rcases Call.cases_of_counts counts target with rfl | ⟨number, rfl⟩ | rfl
  · have number := LawfulCounterStore.reserve_fst mint.store inventory
    have otherNumber := LawfulCounterStore.reserve_fst other.store inventory
    rw [counter] at otherNumber
    exact congrArg Answer.number (number.trans otherNumber.symm)
  · rfl
  · have stood := LawfulCounterStore.forget_fst mint.store inventory
    have otherStood := LawfulCounterStore.forget_fst other.store inventory
    rw [counter] at otherStood
    exact congrArg Answer.counter (stood.trans otherStood.symm)

/-- A call that counts does the same to two mints with the same counter. -/
theorem sameNumbers_of_counts (policy : other.policy = mint.policy)
    (counter : CounterStore.current? other.store inventory =
      CounterStore.current? mint.store inventory)
    (counts : call.counts mint.policy inventory) :
    Performed.SameNumbers ⟨mint, call, (mint.perform call).1⟩
      ⟨other, call, (other.perform call).1⟩ where
  call := rfl
  answer target := perform_fst_eq_of_current? counter counts target
  ordinal made := by
    obtain ⟨_, target⟩ := Option.ne_none_iff_exists'.mp made
    have step := Call.step?_of_target_of_counts target counts
    have otherStep : call.step? other.policy inventory = some .reserve := by rw [policy, step]
    have same : other.counter inventory = mint.counter inventory := congrArg (·.getD 0) counter
    refine ⟨_, shows_of_reserve step, ?_⟩
    rw [← same]
    exact shows_of_reserve otherStep

/-! ### Runs without the other calls -/

theorem current?_perform_of_not_counts (silent : ¬call.counts mint.policy inventory) :
    CounterStore.current? (mint.perform call).2.store inventory =
      CounterStore.current? mint.store inventory := by
  rw [current?_perform, Call.step?_of_not_counts silent, counterAfter]

/-- The calls that count do the same among themselves as they do among all calls. -/
theorem counted_of_filter (policy : other.policy = mint.policy)
    (counter : CounterStore.current? other.store inventory =
      CounterStore.current? mint.store inventory) (calls : List Call) :
    List.Forall₂ Performed.SameNumbers (mint.counted inventory calls)
        (other.performed (calls.filter (Call.counts mint.policy inventory))) ∧
      CounterStore.current?
          (other.run (calls.filter (Call.counts mint.policy inventory))).2.store inventory =
        CounterStore.current? (mint.run calls).2.store inventory := by
  -- The two mints keep the same counter; a call that does not count moves only the first of them.
  induction calls generalizing mint other with
  | nil => exact ⟨.nil, counter⟩
  | cons call calls ih =>
    have nextPolicy := mint.perform_policy call
    by_cases counts : call.counts mint.policy inventory
    · have next : CounterStore.current? (other.perform call).2.store inventory =
          CounterStore.current? (mint.perform call).2.store inventory := by
        rw [current?_perform, current?_perform, counter, policy]
      have otherPolicy : (other.perform call).2.policy = (mint.perform call).2.policy := by
        rw [perform_policy, policy, nextPolicy]
      obtain ⟨rest, final⟩ := ih otherPolicy next
      rw [nextPolicy] at rest final
      rw [List.filter_cons_of_pos counts, counted_cons_of_counts counts]
      exact ⟨.cons (sameNumbers_of_counts policy counter counts) rest, final⟩
    · have next : CounterStore.current? other.store inventory =
          CounterStore.current? (mint.perform call).2.store inventory := by
        rw [current?_perform_of_not_counts counts, counter]
      obtain ⟨rest, final⟩ := ih (policy.trans nextPolicy.symm) next
      rw [nextPolicy] at rest final
      rw [List.filter_cons_of_neg counts, counted_cons_of_not_counts counts]
      exact ⟨rest, final⟩

end Mint

/-! ### Ordinals in order -/

/-- So many ordinals from the one behind a number on; behind the last one comes the first. -/
def ordinalsFrom (number count : Nat) : List Nat :=
  (List.range' number count).map fun n => n % 2 ^ 64 + 1

@[simp] theorem length_ordinalsFrom (number count : Nat) :
    (ordinalsFrom number count).length = count := by
  simp [ordinalsFrom]

theorem getElem_ordinalsFrom (number count k : Nat)
    (inside : k < (ordinalsFrom number count).length) :
    (ordinalsFrom number count)[k] = (number + k) % 2 ^ 64 + 1 := by
  simp [ordinalsFrom]

theorem ordinalsFrom_succ (number count : Nat) :
    ordinalsFrom number (count + 1) =
      (number % 2 ^ 64 + 1) :: ordinalsFrom (number + 1) count := by
  rw [ordinalsFrom, List.range'_succ, List.map_cons, ordinalsFrom]

theorem ordinalsFrom_add (number m n : Nat) :
    ordinalsFrom number (m + n) = ordinalsFrom number m ++ ordinalsFrom (number + m) n := by
  rw [ordinalsFrom, ← List.range'_append_1, List.map_append, ordinalsFrom, ordinalsFrom]

theorem ordinalsFrom_mod (number count : Nat) :
    ordinalsFrom (number % 2 ^ 64) count = ordinalsFrom number count := by
  apply List.ext_getElem (by simp)
  intro k _ _
  rw [getElem_ordinalsFrom, getElem_ordinalsFrom, Nat.mod_add_mod]

theorem eq_ordinalsFrom_of_infix {window : List Nat} {number count : Nat}
    (inside : window <:+: ordinalsFrom number count) :
    ∃ start, window = ordinalsFrom start window.length := by
  obtain ⟨before, after, same⟩ := inside
  have total : before.length + window.length + after.length = count := by
    have length := congrArg List.length same
    simpa [Nat.add_assoc] using length
  rw [← total, ordinalsFrom_add, ordinalsFrom_add] at same
  obtain ⟨front, -⟩ := List.append_inj same (by simp)
  obtain ⟨-, window⟩ := List.append_inj front (by simp)
  exact ⟨_, window⟩

theorem nodup_ordinalsFrom {number count : Nat} (short : count ≤ 2 ^ 64) :
    (ordinalsFrom number count).Nodup := by
  refine List.Nodup.map_on ?_ List.nodup_range'
  intro m first n second same
  rw [List.mem_range'_1] at first second
  omega

theorem mem_ordinalsFrom {number ordinal : Nat} (least : 1 ≤ ordinal) (most : ordinal ≤ 2 ^ 64) :
    ordinal ∈ ordinalsFrom number (2 ^ 64) := by
  -- The first number from `number` on that leaves the remainder of the ordinal.
  let n := number + (ordinal - 1 + (2 ^ 64 - number % 2 ^ 64)) % 2 ^ 64
  have inside : n ∈ List.range' number (2 ^ 64) := by
    rw [List.mem_range'_1]
    omega
  have remainder : n % 2 ^ 64 + 1 = ordinal := by omega
  exact List.mem_map.mpr ⟨n, inside, remainder⟩

namespace Mint
variable {σ : Type} [CounterStore σ] [LawfulCounterStore σ] {inventory : InventoryId}

/-- Without a reset, the calls that count show one ordinal after the other. -/
theorem shows_counted {mint : Mint σ} {calls : List Call}
    (quiet : ∀ call ∈ calls, ¬call.resets inventory) :
    List.Forall₂ Performed.Shows (mint.counted inventory calls)
      (ordinalsFrom (mint.counter inventory).toNat (mint.counted inventory calls).length) := by
  induction calls generalizing mint with
  | nil => exact .nil
  | cons call calls ih =>
    obtain ⟨still, later⟩ := List.forall_mem_cons.mp quiet
    by_cases counts : call.counts mint.policy inventory
    · have step := Call.step?_of_counts counts still
      have next : ((mint.perform call).2.counter inventory).toNat =
          ((mint.counter inventory).toNat + 1) % 2 ^ 64 := by
        rw [counter, current?_perform, step]
        exact UInt64.toNat_add _ _
      have small : (mint.counter inventory).toNat % 2 ^ 64 = (mint.counter inventory).toNat :=
        Nat.mod_eq_of_lt (UInt64.toNat_lt _)
      have rest := @ih (mint.perform call).2 later
      rw [next, ordinalsFrom_mod] at rest
      rw [counted_cons_of_counts counts, List.length_cons, ordinalsFrom_succ, small]
      exact .cons (shows_of_reserve step) rest
    · have next : (mint.perform call).2.counter inventory = mint.counter inventory :=
        congrArg (·.getD 0) (current?_perform_of_not_counts counts)
      have rest := @ih (mint.perform call).2 later
      rw [next] at rest
      rw [counted_cons_of_not_counts counts]
      exact rest

theorem counter_perform_restore (mint : Mint σ) (inventory : InventoryId) (number : UInt64) :
    (mint.perform (.restore inventory number)).2.counter inventory = number := by
  have step : (Call.restore inventory number).step? mint.policy inventory =
      some (.restore number) := if_pos rfl
  rw [counter, current?_perform, step]
  rfl

/-- Calls that do not count for an inventory are invisible to its numbers: without them, the calls
that count do the same, and leave the same counter. Behind a restored number, these calls show the
ordinals that follow it, none twice and none left out. -/
theorem numbering_of_counted_calls (mint : Mint σ) (inventory : InventoryId) (calls : List Call) :
    (mint.performed calls).map Performed.answer = (mint.run calls).1 ∧
    List.Forall₂ Performed.SameNumbers (mint.counted inventory calls)
      (mint.performed (calls.filter (Call.counts mint.policy inventory))) ∧
    CounterStore.current?
        (mint.run (calls.filter (Call.counts mint.policy inventory))).2.store inventory =
      CounterStore.current? (mint.run calls).2.store inventory ∧
    ∀ number : UInt64, (∀ call ∈ calls, ¬call.resets inventory) →
      ∃ ordinals : List Nat,
        List.Forall₂ Performed.Shows
          ((mint.perform (.restore inventory number)).2.counted inventory calls) ordinals ∧
        (∀ k (inside : k < ordinals.length), ordinals[k] = (number.toNat + k) % 2 ^ 64 + 1) ∧
        ∀ window, window <:+: ordinals →
          (window.length ≤ 2 ^ 64 → window.Nodup) ∧
          (window.length = 2 ^ 64 →
            ∀ ordinal, 1 ≤ ordinal → ordinal ≤ 2 ^ 64 → ordinal ∈ window) := by
  have counter : CounterStore.current? mint.store inventory =
      CounterStore.current? mint.store inventory := rfl
  obtain ⟨same, final⟩ := counted_of_filter rfl counter calls
  refine ⟨map_answer_performed mint calls, same, final, fun number quiet => ?_⟩
  let restored := (mint.perform (.restore inventory number)).2
  have shown : List.Forall₂ Performed.Shows (restored.counted inventory calls)
      (ordinalsFrom (restored.counter inventory).toNat
        (restored.counted inventory calls).length) := shows_counted quiet
  rw [counter_perform_restore] at shown
  refine ⟨_, shown, fun k inside => getElem_ordinalsFrom _ _ k inside, fun window inside => ?_⟩
  obtain ⟨start, begins⟩ := eq_ordinalsFrom_of_infix inside
  constructor
  · intro short
    rw [begins]
    exact nodup_ordinalsFrom short
  · intro full ordinal least most
    rw [begins, full]
    exact mem_ordinalsFrom least most

theorem numbering_of_counted_calls_at_last_number :
    ∃ (mint : Mint CounterLedger) (calls : List Call),
      (∀ call ∈ calls, ¬call.resets ⟨1⟩) ∧
      (mint.run calls).1.take 5 =
        [.preview ⟨"00001", []⟩, .identifier "221321-5", .refused (.malformedDirective 0),
          .number 0, .number 5] ∧
      (mint.run (calls.filter (Call.counts mint.policy ⟨1⟩))).1 =
        [.identifier "221320-5", .number 5, .identifier "00007"] ∧
      CounterStore.current? (mint.run calls).2.store ⟨1⟩ = some 7 ∧
      List.Forall₂ Performed.Shows
        ((mint.perform (.restore ⟨1⟩ 18446744073709551614)).2.counted ⟨1⟩ calls)
        [18446744073709551615, 18446744073709551616, 1] := by
  let mint : Mint CounterLedger :=
    { policy := { previewExamples := 0 }
      store := CounterLedger.empty.restore ⟨1⟩ 4
      clock := { source := fun n => ⟨1700000000 + n, 0⟩ }
      draws := .const 0 }
  let calls : List Call :=
    [.preview "\x7bSEQ\x7d", .generate ⟨1⟩ "\x7bDATE:HHmmss\x7d-\x7bSEQ:1\x7d",
      .generate ⟨1⟩ "\x7bSEQ", .reserve ⟨2⟩, .reserve ⟨1⟩, .current ⟨1⟩, .generate ⟨1⟩ "x",
      .generateFormat ⟨1⟩ ⟨[.directive (.sequence .standard)]⟩]
  have quiet : ∀ call ∈ calls, ¬call.resets ⟨1⟩ := by decide
  obtain ⟨-, -, final, behind⟩ := numbering_of_counted_calls mint ⟨1⟩ calls
  obtain ⟨ordinals, shown, values, -⟩ := behind 18446744073709551614 quiet
  have length : ordinals.length = 3 := shown.length_eq.symm.trans (by decide)
  have same : ordinals = [18446744073709551615, 18446744073709551616, 1] := by
    match ordinals, length with
    | [_, _, _], _ =>
      rw [List.cons.injEq, List.cons.injEq, List.cons.injEq]
      exact ⟨values 0 (by simp), values 1 (by simp), values 2 (by simp), rfl⟩
  refine ⟨mint, calls, quiet, by decide, by decide, final.symm.trans (by decide), ?_⟩
  rw [← same]
  exact shown

end Mint
end InventoryIds
