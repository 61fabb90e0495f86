import InventoryIds.Counters.Ledger
import InventoryIds.Proofs.Minting

/-!
# Distinct identifiers

Along a run in which the counter of an inventory only goes forward, no number is reserved twice
for the inventory, and so no two identifiers of one format are alike (`nodup_identifiersOf`).
-/

namespace InventoryIds

/-- A change that moves a counter forward: it does not wrap, step back or drop the counter. -/
def CounterStep.Forward (counter : UInt64) : CounterStep → Prop
  | reserve => counter.toNat + 1 < UInt64.size
  | restore number => counter ≤ number
  | forget => False

instance (counter : UInt64) (step : CounterStep) : Decidable (step.Forward counter) :=
  match step with
  | .reserve => inferInstanceAs (Decidable (_ < _))
  | .restore _ => inferInstanceAs (Decidable (_ ≤ _))
  | .forget => isFalse id

theorem CounterStep.getD_le_after {counter : Option UInt64} {step : CounterStep}
    (forward : step.Forward (counter.getD 0)) :
    (counter.getD 0).toNat ≤ ((step.after counter).getD 0).toNat := by
  cases step with
  | reserve =>
    rw [after, Option.getD_some, toNat_add_one forward]
    exact Nat.le_succ _
  | restore number => exact UInt64.le_iff_toNat_le.mp forward
  | forget => exact forward.elim

namespace Call

/-- The call makes an identifier for an inventory in a format, however its literals are cut. -/
def Makes (policy : Policy) (inventory : InventoryId) (format : Format) (call : Call) : Prop :=
  (call.target? policy).map (Prod.map id Format.normalized) = some (inventory, format.normalized)

instance (policy : Policy) (inventory : InventoryId) (format : Format) (call : Call) :
    Decidable (call.Makes policy inventory format) :=
  inferInstanceAs (Decidable (_ = _))

theorem makes_iff {policy : Policy} {inventory : InventoryId} {format : Format} {call : Call} :
    call.Makes policy inventory format ↔
      ∃ other, call.target? policy = some (inventory, other) ∧
        other.normalized = format.normalized := by
  unfold Makes
  rw [Option.map_eq_some_iff]
  constructor
  · rintro ⟨⟨i, other⟩, target, same⟩
    obtain ⟨rfl, normal⟩ := Prod.mk.inj same
    exact ⟨other, target, normal⟩
  · rintro ⟨other, target, normal⟩
    exact ⟨_, target, congrArg (Prod.mk inventory) normal⟩

end Call

def Answer.identifier? : Answer → Option String
  | identifier text => some text
  | _ => none

namespace Mint
variable {σ : Type} [CounterStore σ] {inventory : InventoryId} {format : Format}

def Forward (mint : Mint σ) (inventory : InventoryId) (call : Call) : Prop :=
  ∀ step ∈ call.step? mint.policy inventory, step.Forward (mint.counter inventory)

/-- Every call of a run moves the counter of an inventory forward, if it changes it. -/
def ForwardAlong (mint : Mint σ) (inventory : InventoryId) : List Call → Prop
  | [] => True
  | call :: calls =>
    mint.Forward inventory call ∧ (mint.perform call).2.ForwardAlong inventory calls

instance (mint : Mint σ) (inventory : InventoryId) (call : Call) :
    Decidable (mint.Forward inventory call) :=
  inferInstanceAs (Decidable (∀ step ∈ call.step? mint.policy inventory, _))

instance decidableForwardAlong (inventory : InventoryId) :
    (mint : Mint σ) → (calls : List Call) → Decidable (mint.ForwardAlong inventory calls)
  | _, [] => isTrue trivial
  | mint, call :: calls =>
    have := decidableForwardAlong inventory (mint.perform call).2 calls
    inferInstanceAs (Decidable (mint.Forward inventory call ∧ _))

/-- The years of all readings of the clock that a run takes have four digits. -/
def FourDigitYears (mint : Mint σ) (calls : List Call) : Prop :=
  ∀ n, mint.clock.taken ≤ n → n < (mint.run calls).2.clock.taken →
    (mint.clock.source n).FourDigitYear

def identifiersOf (mint : Mint σ) (inventory : InventoryId) (format : Format)
    (calls : List Call) : List String :=
  ((calls.zip (mint.run calls).1).filter (·.1.Makes mint.policy inventory format)).filterMap
    (·.2.identifier?)

theorem perform_clock (mint : Mint σ) (call : Call) :
    (mint.perform call).2.clock = mint.clock.advance (call.rendered mint.policy).length := by
  rw [perform_snd_eq]
  rfl

theorem exists_run_clock_eq (mint : Mint σ) (calls : List Call) :
    ∃ readings, (mint.run calls).2.clock = mint.clock.advance readings := by
  induction calls generalizing mint with
  | nil => exact ⟨0, rfl⟩
  | cons call calls ih =>
    obtain ⟨readings, clock⟩ := ih (mint.perform call).2
    refine ⟨(call.rendered mint.policy).length + readings, ?_⟩
    rw [← Feed.advance_advance, ← perform_clock]
    exact clock

/-! ### Clocks along a run -/

theorem FourDigitYears.tail {mint : Mint σ} {call : Call} {calls : List Call}
    (years : mint.FourDigitYears (call :: calls)) :
    (mint.perform call).2.FourDigitYears calls := by
  intro n taken before
  rw [perform_clock] at taken ⊢
  exact years n (Nat.le_trans (Nat.le_add_right _ _) taken) before

theorem FourDigitYears.head {mint : Mint σ} {call : Call} {calls : List Call}
    (years : mint.FourDigitYears (call :: calls))
    (made : call.target? mint.policy = some (inventory, format)) :
    mint.clock.head.FourDigitYear := by
  refine years _ (Nat.le_refl _) ?_
  obtain ⟨readings, clock⟩ := exists_run_clock_eq (mint.perform call).2 calls
  show mint.clock.taken < ((mint.perform call).2.run calls).2.clock.taken
  rw [clock, perform_clock, Call.rendered, made]
  simp only [Feed.advance, List.length_singleton]
  omega

/-! ### Identifiers along a run -/

theorem identifiersOf_of_makes {mint : Mint σ} {call : Call} {other : Format}
    (target : call.target? mint.policy = some (inventory, other))
    (normal : other.normalized = format.normalized) (calls : List Call) :
    mint.identifiersOf inventory format (call :: calls) =
      mint.nextIdentifier inventory other ::
        (mint.perform call).2.identifiersOf inventory format calls := by
  have makes := Call.makes_iff.mpr ⟨other, target, normal⟩
  have answer : (mint.perform call).1.identifier? = some (mint.nextIdentifier inventory other) := by
    rw [perform_of_target target]
    rfl
  simp only [identifiersOf, run, List.zip_cons_cons, List.filter_cons, makes, decide_true,
    if_true, List.filterMap_cons, answer, perform_policy]

theorem identifiersOf_of_not_makes {mint : Mint σ} {call : Call}
    (makes : ¬call.Makes mint.policy inventory format) (calls : List Call) :
    mint.identifiersOf inventory format (call :: calls) =
      (mint.perform call).2.identifiersOf inventory format calls := by
  simp only [identifiersOf, run, List.zip_cons_cons, List.filter_cons, makes, decide_false,
    Bool.false_eq_true, if_false, perform_policy]

variable [LawfulCounterStore σ]

theorem counter_perform (mint : Mint σ) (call : Call) (inventory : InventoryId) :
    (mint.perform call).2.counter inventory =
      (counterAfter (CounterStore.current? mint.store inventory)
        (call.step? mint.policy inventory)).getD 0 := by
  rw [counter, perform_snd_eq, Call.current?_changeStore]

theorem counter_le_perform {mint : Mint σ} {call : Call} (forward : mint.Forward inventory call) :
    (mint.counter inventory).toNat ≤ ((mint.perform call).2.counter inventory).toNat := by
  rw [counter_perform]
  cases change : call.step? mint.policy inventory with
  | none => exact Nat.le_refl _
  | some step => exact CounterStep.getD_le_after (forward step change)

theorem counter_perform_of_target {mint : Mint σ} {call : Call} {other : Format}
    (target : call.target? mint.policy = some (inventory, other)) (shows : other.hasSequence)
    (forward : mint.Forward inventory call) :
    (mint.nextContext inventory other).ordinal = (mint.counter inventory).toNat + 1 ∧
      ((mint.perform call).2.counter inventory).toNat = (mint.counter inventory).toNat + 1 := by
  have step : call.step? mint.policy inventory = some .reserve := by
    rw [Call.step?_of_target target, if_pos ⟨rfl, shows⟩]
  constructor
  · exact ordinal_nextContext mint inventory shows
  · rw [counter_perform, step]
    exact toNat_add_one (forward _ step)

end Mint

/-- An identifier of a format whose ordinal lies above a number. -/
def Format.GivesAbove (format : Format) (number : Nat) (text : String) : Prop :=
  ∃ (other : Format) (context : Context) (draws : Feed Draw),
    other.normalized = format.normalized ∧ context.now.FourDigitYear ∧
      number < context.ordinal ∧ text = (other.render context draws).1

theorem Format.GivesAbove.mono {format : Format} {m n : Nat} {text : String} (le : m ≤ n)
    (gives : format.GivesAbove n text) : format.GivesAbove m text := by
  obtain ⟨other, context, draws, normal, year, above, same⟩ := gives
  exact ⟨other, context, draws, normal, year, Nat.lt_of_le_of_lt le above, same⟩

namespace Mint
variable {σ : Type} [CounterStore σ] [LawfulCounterStore σ] {inventory : InventoryId}
  {format : Format}

/-- All identifiers that a run makes have ordinals above the counter that the run starts with. -/
theorem givesAbove_of_mem {mint : Mint σ} {calls : List Call} {text : String}
    (shows : format.hasSequence) (forward : mint.ForwardAlong inventory calls)
    (years : mint.FourDigitYears calls) (member : text ∈ mint.identifiersOf inventory format calls) :
    format.GivesAbove (mint.counter inventory).toNat text := by
  induction calls generalizing mint with
  | nil => cases member
  | cons call calls ih =>
    obtain ⟨first, rest⟩ := forward
    -- Later identifiers lie above the counter behind this call, which has not gone back.
    have later : text ∈ (mint.perform call).2.identifiersOf inventory format calls →
        format.GivesAbove (mint.counter inventory).toNat text :=
      fun member => (ih rest years.tail member).mono (counter_le_perform first)
    by_cases makes : call.Makes mint.policy inventory format
    · obtain ⟨other, target, normal⟩ := Call.makes_iff.mp makes
      rw [identifiersOf_of_makes target normal] at member
      rcases List.mem_cons.mp member with rfl | member
      · have shown := (Format.hasSequence_iff_of_normalized_eq normal).mpr shows
        have ordinal := (counter_perform_of_target target shown first).1
        exact ⟨other, mint.nextContext inventory other, mint.draws, normal, years.head target,
          by omega, rfl⟩
      · exact later member
    · rw [identifiersOf_of_not_makes makes] at member
      exact later member

/-- No two identifiers of a format are alike that a run makes for an inventory, if its counter
only goes forward. -/
theorem nodup_identifiersOf {mint : Mint σ} {calls : List Call} (shows : format.hasSequence)
    (forward : mint.ForwardAlong inventory calls) (years : mint.FourDigitYears calls) :
    (mint.identifiersOf inventory format calls).Nodup := by
  induction calls generalizing mint with
  | nil => exact .nil
  | cons call calls ih =>
    obtain ⟨first, rest⟩ := forward
    have later := ih rest years.tail
    by_cases makes : call.Makes mint.policy inventory format
    · obtain ⟨other, target, normal⟩ := Call.makes_iff.mp makes
      have shown := (Format.hasSequence_iff_of_normalized_eq normal).mpr shows
      obtain ⟨ordinal, moved⟩ := counter_perform_of_target target shown first
      rw [identifiersOf_of_makes target normal]
      refine List.nodup_cons.mpr ⟨fun member => ?_, later⟩
      -- The first identifier shows the counter, the later ones show what lies behind it.
      obtain ⟨another, context, draws, sameNormal, year, above, same⟩ :=
        givesAbove_of_mem shows rest years.tail member
      have firstYear : (mint.nextContext inventory other).now.FourDigitYear := years.head target
      have ordinals := Format.ordinal_eq_of_render_eq (normal.trans sameNormal.symm) shown
        firstYear year same
      omega
    · rw [identifiersOf_of_not_makes makes]
      exact later

theorem nodup_identifiersOf_growing_ordinal :
    ∃ (mint : Mint CounterLedger) (format : Format) (calls : List Call),
      format.hasSequence ∧ mint.ForwardAlong ⟨1⟩ calls ∧ mint.FourDigitYears calls ∧
        mint.identifiersOf ⟨1⟩ format calls = ["079", "0710"] ∧
        (mint.identifiersOf ⟨1⟩ format calls).Nodup := by
  refine ⟨{ store := .empty, clock := .const ⟨1700000000, 0⟩, draws := .const 7 },
    ⟨[.directive (.random .six), .directive (.sequence (.explicit 1))]⟩,
    [.restore ⟨1⟩ 8, .generate ⟨1⟩ "\x7bRANDOM:6\x7d\x7bSEQ:1\x7d", .previewFormat .standard,
      .generate ⟨1⟩ "\x7bSEQ", .reserve ⟨2⟩, .forget ⟨2⟩,
      .generateFormat ⟨1⟩ ⟨[.directive (.random .six), .literal "",
        .directive (.sequence (.explicit 1))]⟩],
    rfl, ?forward, ?years, by decide, nodup_identifiersOf rfl ?forward ?years⟩
  case forward => decide
  case years => exact fun _ _ _ => (by decide : Instant.FourDigitYear ⟨1700000000, 0⟩)

end Mint
end InventoryIds
