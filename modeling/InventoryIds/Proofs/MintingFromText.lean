import InventoryIds.Counters.Ledger
import InventoryIds.Proofs.Admission
import InventoryIds.Proofs.Minting

/-!
# Minting from the text of a format

A format and its normal form give the same identifiers for the same readings and draws. So it
does not matter whether a mint is handed an admitted format or its text, with one exception: only
the format tells whether there are empty literals (`generate_canonical_and_preview_canonical`).
-/

namespace InventoryIds

theorem Token.pieces_eq_nil_iff {token : Token} : token.pieces = [] ↔ token = .literal "" := by
  cases token with
  | literal text => simp [pieces]
  | directive d => simp [pieces]

namespace Format

/-- There are tokens, but all of them are empty literals. -/
structure IsBlank (format : Format) : Prop where
  nonempty : format.tokens ≠ []
  empty : ∀ token ∈ format.tokens, token = .literal ""

instance (format : Format) : Decidable format.IsBlank :=
  decidable_of_iff (format.tokens ≠ [] ∧ ∀ token ∈ format.tokens, token = .literal "")
    ⟨fun blank => ⟨blank.1, blank.2⟩, fun blank => ⟨blank.nonempty, blank.empty⟩⟩

theorem pieces_eq_nil_iff {format : Format} :
    format.pieces = [] ↔ ∀ token ∈ format.tokens, token = .literal "" := by
  simp only [pieces, List.flatMap_eq_nil_iff, Token.pieces_eq_nil_iff]

/-! ### Normal forms -/

theorem isEmpty_normalized_iff {format : Format} :
    format.normalized.isEmpty ↔ format.pieces = [] := by
  rw [isEmpty, List.isEmpty_iff]
  constructor
  · intro empty
    rw [← pieces_normalized, pieces, empty, List.flatMap_nil]
  · intro empty
    rw [normalized, empty]
    rfl

theorem isEmpty_normalized {format : Format} (visible : ¬format.IsBlank) :
    format.normalized.isEmpty = format.isEmpty := by
  apply Bool.eq_iff_iff.mpr
  rw [isEmpty_normalized_iff, pieces_eq_nil_iff, isEmpty, List.isEmpty_iff]
  constructor
  · intro empty
    by_contra nonempty
    exact visible ⟨nonempty, empty⟩
  · intro none
    simp [none]

end Format

namespace Mint
variable {σ : Type} (mint : Mint σ) {format : Format}

theorem renderNow_normalized (format : Format) (context : Instant → Context) :
    mint.renderNow format.normalized context = mint.renderNow format context := by
  unfold renderNow
  simp only [Format.render_normalized]

theorem sample_normalized (format : Format) :
    mint.sample format.normalized = mint.sample format :=
  renderNow_normalized mint format .preview

theorem samples_normalized (format : Format) (n : Nat) :
    mint.samples format.normalized n = mint.samples format n := by
  unfold samples
  simp only [sample_normalized]

theorem previewFormat_normalized (visible : ¬format.IsBlank) :
    mint.previewFormat format.normalized = mint.previewFormat format := by
  unfold previewFormat
  simp only [sample_normalized, samples_normalized, Format.isEmpty_normalized visible]

/-! ### Formats without pieces -/

theorem renderNow_of_pieces_nil (blank : format.pieces = []) (context : Instant → Context) :
    mint.renderNow format context = ("", mint.advance 1 0) := by
  rw [renderNow_eq, Format.render_eq, Format.draws_eq_countP_pieces, blank]
  rfl

theorem samples_of_pieces_nil (blank : format.pieces = []) (n : Nat) :
    mint.samples format n = (List.replicate n "", mint.advance n 0) := by
  unfold samples
  induction n generalizing mint with
  | zero => rfl
  | succ n ih =>
    have first : mint.sample format = ("", mint.advance 1 0) :=
      renderNow_of_pieces_nil mint blank .preview
    rw [collect_succ, first, ih, advance_advance, Nat.add_comm 1 n, List.replicate_succ]

theorem previewFormat_of_pieces_nil (blank : format.pieces = []) :
    mint.previewFormat format =
      (⟨"", List.replicate (format.examples mint.policy) ""⟩,
        mint.advance (1 + format.examples mint.policy) 0) := by
  have first : mint.sample format = ("", mint.advance 1 0) :=
    renderNow_of_pieces_nil mint blank .preview
  unfold previewFormat
  simp only [first, samples_of_pieces_nil _ blank, advance_advance]
  rfl

/-! ### Texts -/

variable {mint} [CounterStore σ]

theorem generateFormat_normalized (inventory : InventoryId) :
    mint.generateFormat inventory format.normalized = mint.generateFormat inventory format := by
  unfold generateFormat reserveFor
  simp only [renderNow_normalized, Format.hasSequence_normalized]

end Mint
end InventoryIds
