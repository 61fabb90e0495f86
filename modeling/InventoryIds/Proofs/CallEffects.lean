import InventoryIds.Counters.Ledger
import InventoryIds.Proofs.Fragments
import InventoryIds.Proofs.Minting

/-!
# Effects of calls

What `generate` and `preview` leave of a mint, and what their texts show: the readings of the
clock, the draws, the counters, and the ordinal (`generate_and_preview_of_compile`).
-/

namespace InventoryIds

/-! ### Previews -/

/-- The renderings of a preview: the first one, and the examples if there is any token. -/
def Format.renderings (format : Format) (policy : Policy) : Nat :=
  if format.tokens = [] then 1 else 1 + policy.previewExamples.toNat

theorem Format.renderings_eq (format : Format) (policy : Policy) :
    format.renderings policy = 1 + format.examples policy := by
  rcases format with ⟨_ | _⟩ <;> rfl

namespace Mint
variable {σ : Type}

/-- What a preview of a format shows, and what it leaves of a mint: the store stays, and every
rendering has its own reading of the clock and its own draws. -/
structure Previews (mint : Mint σ) (format : Format) (preview : Preview) (next : Mint σ) :
    Prop where
  policy : next.policy = mint.policy
  store : next.store = mint.store
  clock : next.clock = mint.clock.advance (format.renderings mint.policy)
  draws : next.draws =
    mint.draws.advance (format.renderings mint.policy * drawsOf format.tokens)
  texts : preview.preview :: preview.examples =
    (List.range (format.renderings mint.policy)).map fun k =>
      shownTokensAt (mint.clock.advance k).head 1 format.tokens
        (mint.draws.advance (k * drawsOf format.tokens))

theorem sample_fst (mint : Mint σ) (format : Format) :
    (mint.sample format).1 = shownTokensAt mint.clock.head 1 format.tokens mint.draws := by
  rw [sample, renderNow_eq, Format.render_fst]
  rfl

/-- Every rendering begins at the reading and at the draws that the ones before it have left. -/
theorem samples_fst (mint : Mint σ) (format : Format) (n : Nat) :
    (mint.samples format n).1 = (List.range n).map fun k =>
      shownTokensAt (mint.clock.advance k).head 1 format.tokens
        (mint.draws.advance (k * format.draws)) := by
  unfold samples
  induction n generalizing mint with
  | zero => rfl
  | succ n ih =>
    rw [collect_succ, List.range_succ_eq_map, List.map_cons, List.map_map, ih, sample_fst,
      sample_snd]
    simp only [advance, Feed.advance_advance, Function.comp_def, Nat.succ_eq_add_one,
      Nat.add_mul, Nat.one_mul, Nat.add_comm, Nat.zero_mul, Feed.advance_zero]

theorem samples_succ_fst (mint : Mint σ) (format : Format) (n : Nat) :
    (mint.samples format (n + 1)).1 =
      (mint.sample format).1 :: ((mint.sample format).2.samples format n).1 := by
  rw [samples, collect_succ]
  rfl

theorem previews_previewFormat (mint : Mint σ) (format : Format) :
    mint.Previews format (mint.previewFormat format).1 (mint.previewFormat format).2 := by
  have next : (mint.previewFormat format).2 =
      mint.advance (format.renderings mint.policy)
        (format.renderings mint.policy * drawsOf format.tokens) := by
    rw [previewFormat_snd, afterRendering, List.length_replicate, List.map_replicate,
      List.sum_replicate_nat, Format.renderings_eq, drawsOf_eq_countP]
    rfl
  constructor
  case texts =>
    rw [Format.renderings_eq, Nat.add_comm, drawsOf_eq_countP]
    exact (samples_succ_fst mint format _).symm.trans (samples_fst mint format _)
  all_goals rw [next]; rfl

/-! ### Identifiers -/

variable [CounterStore σ]

/-- What the next identifier of a format shows, and what making it leaves of a mint: there is one
reading of the clock, and one reservation for all ordinals of the identifier. -/
structure Generates (mint : Mint σ) (inventory : InventoryId) (format : Format)
    (identifier : String) (next : Mint σ) : Prop where
  policy : next.policy = mint.policy
  clock : next.clock = mint.clock.advance 1
  draws : next.draws = mint.draws.advance (drawsOf format.tokens)
  reserved : .sequence ∈ format.tokens.map Token.kind →
    next.store = (CounterStore.reserve mint.store inventory).2
  kept : .sequence ∉ format.tokens.map Token.kind → next.store = mint.store
  others : ∀ other ≠ inventory,
    CounterStore.current? next.store other = CounterStore.current? mint.store other
  own : .sequence ∈ format.tokens.map Token.kind →
    (CounterStore.current? next.store inventory).map UInt64.toNat =
      some (((mint.counter inventory).toNat + 1) % 2 ^ 64)
  changed : CounterStore.current? next.store inventory ≠
      CounterStore.current? mint.store inventory ↔
    .sequence ∈ format.tokens.map Token.kind
  text : identifier =
    shownTokensAt mint.clock.head ((mint.counter inventory).toNat + 1) format.tokens mint.draws

variable [LawfulCounterStore σ]

theorem nextIdentifier_eq (mint : Mint σ) (inventory : InventoryId) (format : Format) :
    mint.nextIdentifier inventory format =
      shownTokensAt mint.clock.head ((mint.counter inventory).toNat + 1) format.tokens
        mint.draws := by
  rw [nextIdentifier, Format.render_fst]
  by_cases shows : format.hasSequence
  · rw [ordinal_nextContext mint inventory shows]
    rfl
  · -- Nothing was reserved; the ordinal of the context is another one, but no token shows it.
    exact shownTokensAt_of_not_mem (mt Format.hasSequence_iff_mem.mpr shows) _ _ _

theorem generates_generateFormat (mint : Mint σ) (inventory : InventoryId) (format : Format) :
    mint.Generates inventory format (mint.generateFormat inventory format).1
      (mint.generateFormat inventory format).2 := by
  have current (other : InventoryId) :=
    Call.current?_reserveShown mint.store inventory other format
  rw [generateFormat_eq]
  constructor
  case policy | clock => rfl
  case draws => exact congrArg mint.draws.advance (drawsOf_eq_countP format.tokens).symm
  case reserved => exact fun shows => if_pos (Format.hasSequence_iff_mem.mpr shows)
  case kept => exact fun absent => if_neg fun shows => absent (Format.hasSequence_iff_mem.mp shows)
  case others =>
    intro other different
    exact (current other).trans (by rw [if_neg fun both => different both.1.symm, counterAfter])
  case own =>
    intro shows
    rw [current, if_pos ⟨rfl, Format.hasSequence_iff_mem.mpr shows⟩]
    exact congrArg some (UInt64.toNat_add _ _)
  case changed =>
    rw [current, ← Format.hasSequence_iff_mem]
    by_cases shows : format.hasSequence
    · rw [if_pos ⟨rfl, shows⟩]
      exact iff_of_true (CounterStep.after_reserve_ne _) shows
    · rw [if_neg fun both => shows both.2]
      exact iff_of_false (fun different => different rfl) shows
  case text => exact nextIdentifier_eq mint inventory format

/-! ### Calls -/

end Mint
end InventoryIds
