import Mathlib.Algebra.Order.BigOperators.Group.List
import InventoryIds.Proofs.Dates
import InventoryIds.Proofs.NormalForm

/-!
# Rendered formats

What a format shows is what its pieces show, one behind the other (`renderInto_eq`). The length
of each part depends on the ordinal alone and grows with it. So two identifiers of one format
have their parts at the same places, and show the same ordinal (`ordinal_eq_of_render_eq`).
-/

namespace InventoryIds

namespace Feed
variable {α : Type}

@[simp] theorem advance_zero (feed : Feed α) : feed.advance 0 = feed := rfl

@[simp] theorem advance_advance (feed : Feed α) (m n : Nat) :
    (feed.advance m).advance n = feed.advance (m + n) := by
  simp [advance, Nat.add_assoc]

end Feed

/-! ### What a directive shows -/

namespace Directive

/-- The text that is written for a directive, with a draw if it needs one. -/
def shown (context : Context) (draw : Draw) : Directive → List Char
  | random code => code.ofWord draw.word
  | guid => Guid.text (Guid.ofDraw draw)
  | date pattern => pattern.text context.now
  | sequence width => Numeral.padded width.minDigits context.ordinal

theorem render_eq (context : Context) (draft : Draft) (directive : Directive) :
    directive.render context draft =
      { text := draft.text ++ String.ofList (directive.shown context draft.draws.head)
        draws := draft.draws.advance directive.draws.toNat } := by
  cases directive <;> rfl

/-- The characters of a directive that shows this ordinal, if the year has four digits. -/
def shownLength (ordinal : Nat) : Directive → Nat
  | random code => code.width
  | guid => Guid.length
  | date pattern => pattern.spelling.utf8ByteSize
  | sequence width => max width.minDigits (Nat.toDigits 10 ordinal).length

theorem length_shown {context : Context} (fourDigits : context.now.FourDigitYear) (draw : Draw)
    (directive : Directive) :
    (directive.shown context draw).length = directive.shownLength context.ordinal := by
  cases directive with
  | random code => cases code <;> exact Base36.length_encode _ _
  | guid => exact Guid.length_text _
  | date pattern => exact DatePattern.length_text fourDigits pattern
  | sequence width => exact Numeral.length_padded _ _

theorem shownLength_mono {m n : Nat} (le : m ≤ n) (directive : Directive) :
    directive.shownLength m ≤ directive.shownLength n := by
  cases directive with
  | sequence width =>
    have digits := Numeral.length_toDigits_le le
    simp only [shownLength]
    omega
  | _ => exact Nat.le_refl _

end Directive

/-! ### What pieces show -/

namespace Piece

def draws : Piece → Bool
  | char _ => false
  | directive d => d.draws

def shown (context : Context) (draw : Draw) : Piece → List Char
  | char c => [c]
  | directive d => d.shown context draw

def shownLength (ordinal : Nat) : Piece → Nat
  | char _ => 1
  | directive d => d.shownLength ordinal

theorem length_shown {context : Context} (fourDigits : context.now.FourDigitYear) (draw : Draw)
    (piece : Piece) : (piece.shown context draw).length = piece.shownLength context.ordinal := by
  cases piece with
  | char c => rfl
  | directive d => exact d.length_shown fourDigits draw

theorem shownLength_mono {m n : Nat} (le : m ≤ n) (piece : Piece) :
    piece.shownLength m ≤ piece.shownLength n := by
  cases piece with
  | char c => exact Nat.le_refl _
  | directive d => exact d.shownLength_mono le

end Piece

/-- What pieces show, one behind the other, with the draws taken in order. -/
def shownPieces (context : Context) : List Piece → Feed Draw → List Char
  | [], _ => []
  | piece :: pieces, draws =>
    piece.shown context draws.head ++ shownPieces context pieces (draws.advance piece.draws.toNat)

theorem toNat_add_countP {α : Type} (draws : α → Bool) (first : α) (more : List α) :
    (draws first).toNat + more.countP draws = (first :: more).countP draws := by
  rw [List.countP_cons, Nat.add_comm]
  cases draws first <;> rfl

variable {context : Context}

theorem shownPieces_append (left right : List Piece) (draws : Feed Draw) :
    shownPieces context (left ++ right) draws =
      shownPieces context left draws ++
        shownPieces context right (draws.advance (left.countP Piece.draws)) := by
  induction left generalizing draws with
  | nil => rfl
  | cons piece left ih =>
    rw [List.cons_append, shownPieces, shownPieces, ih, Feed.advance_advance, toNat_add_countP,
      List.append_assoc]

theorem shownPieces_chars (cs : List Char) (draws : Feed Draw) :
    shownPieces context (cs.map .char) draws = cs := by
  induction cs with
  | nil => rfl
  | cons c cs ih => exact congrArg (c :: ·) ih

theorem length_shownPieces (fourDigits : context.now.FourDigitYear) (pieces : List Piece)
    (draws : Feed Draw) :
    (shownPieces context pieces draws).length =
      (pieces.map (Piece.shownLength context.ordinal)).sum := by
  induction pieces generalizing draws with
  | nil => rfl
  | cons piece pieces ih =>
    rw [shownPieces, List.length_append, ih, piece.length_shown fourDigits, List.map_cons,
      List.sum_cons]

theorem Token.render_eq (draft : Draft) (token : Token) :
    token.render context draft =
      { text := draft.text ++ String.ofList (shownPieces context token.pieces draft.draws)
        draws := draft.draws.advance token.draws.toNat } := by
  cases token with
  | literal text =>
    rw [pieces, shownPieces_chars, String.ofList_toList]
    rfl
  | directive d =>
    rw [render, d.render_eq, pieces, shownPieces, shownPieces, List.append_nil]
    rfl

theorem Token.countP_draws_pieces (token : Token) :
    token.pieces.countP Piece.draws = token.draws.toNat := by
  cases token with
  | literal text =>
    refine List.countP_eq_zero.mpr fun piece member => ?_
    obtain ⟨c, -, rfl⟩ := List.mem_map.mp member
    exact Bool.false_ne_true
  | directive d => cases h : d.draws <;> simp [pieces, Piece.draws, draws, h]

namespace Format

theorem foldl_render_eq (tokens : List Token) (draft : Draft) :
    tokens.foldl (Token.render context) draft =
      { text := draft.text ++
          String.ofList (shownPieces context (tokens.flatMap Token.pieces) draft.draws)
        draws := draft.draws.advance (tokens.countP Token.draws) } := by
  induction tokens generalizing draft with
  | nil => simp [shownPieces]
  | cons token tokens ih =>
    rw [List.foldl_cons, ih, Token.render_eq, List.flatMap_cons, shownPieces_append,
      token.countP_draws_pieces, Feed.advance_advance, toNat_add_countP, String.ofList_append,
      String.append_assoc]

/-- Rendering writes what the pieces show, and takes the draws that the format needs. -/
theorem renderInto_eq (format : Format) (draft : Draft) :
    format.renderInto context draft =
      { text := draft.text ++ String.ofList (shownPieces context format.pieces draft.draws)
        draws := draft.draws.advance format.draws } :=
  foldl_render_eq format.tokens draft

theorem render_eq (format : Format) (draws : Feed Draw) :
    format.render context draws =
      (String.ofList (shownPieces context format.pieces draws), draws.advance format.draws) := by
  rw [render, renderInto_eq, String.empty_append]

theorem draws_eq_countP_pieces (format : Format) :
    format.draws = format.pieces.countP Piece.draws := by
  obtain ⟨tokens⟩ := format
  unfold draws pieces
  induction tokens with
  | nil => rfl
  | cons token tokens ih =>
    rw [List.flatMap_cons, List.countP_append, token.countP_draws_pieces, ← ih, toNat_add_countP]

theorem draws_normalized (format : Format) : format.normalized.draws = format.draws := by
  rw [draws_eq_countP_pieces, pieces_normalized, ← draws_eq_countP_pieces]

theorem render_normalized (format : Format) (context : Context) (draws : Feed Draw) :
    format.normalized.render context draws = format.render context draws := by
  rw [render_eq, render_eq, pieces_normalized, draws_normalized]

end Format

/-! ### Ordinals in identifiers -/

def ShowsOrdinal (pieces : List Piece) : Prop := ∃ width, .directive (.sequence width) ∈ pieces

/-- Parts that do not shrink from one text to the other are as long in both, if the texts are. -/
theorem append_inj_of_length_le {α : Type} {a b c d : List α} (same : a ++ b = c ++ d)
    (left : a.length ≤ c.length) (right : b.length ≤ d.length) : a = c ∧ b = d := by
  have total := congrArg List.length same
  rw [List.length_append, List.length_append] at total
  exact List.append_inj same (by omega)

/-- The same pieces show the same text only for the same ordinal. -/
theorem ordinal_eq_of_shownPieces_eq {first second : Context} {pieces : List Piece}
    {draws others : Feed Draw} (firstYear : first.now.FourDigitYear)
    (secondYear : second.now.FourDigitYear) (le : first.ordinal ≤ second.ordinal)
    (shows : ShowsOrdinal pieces)
    (same : shownPieces first pieces draws = shownPieces second pieces others) :
    first.ordinal = second.ordinal := by
  induction pieces generalizing draws others with
  | nil => obtain ⟨width, member⟩ := shows; cases member
  | cons piece pieces ih =>
    rw [shownPieces, shownPieces] at same
    -- No part shrinks when the ordinal grows, so equal texts have their parts at the same places.
    have part :
        (piece.shown first draws.head).length ≤ (piece.shown second others.head).length := by
      rw [piece.length_shown firstYear, piece.length_shown secondYear]
      exact piece.shownLength_mono le
    have rest : (shownPieces first pieces (draws.advance piece.draws.toNat)).length ≤
        (shownPieces second pieces (others.advance piece.draws.toNat)).length := by
      rw [length_shownPieces firstYear, length_shownPieces secondYear]
      exact List.sum_le_sum fun other _ => other.shownLength_mono le
    obtain ⟨samePart, sameRest⟩ := append_inj_of_length_le same part rest
    obtain ⟨width, member⟩ := shows
    rcases List.mem_cons.mp member with rfl | later
    · exact Numeral.padded_inj samePart
    · exact ih ⟨width, later⟩ sameRest

namespace Format

theorem hasSequence_iff_pieces {format : Format} :
    format.hasSequence ↔ ShowsOrdinal format.pieces := by
  rw [hasSequence, List.any_eq_true]
  constructor
  · rintro ⟨token, member, kind⟩
    cases token with
    | literal text => cases of_decide_eq_true kind
    | directive d =>
      cases d with
      | sequence width =>
        exact ⟨width, List.mem_flatMap.mpr ⟨_, member, List.mem_singleton_self _⟩⟩
      | _ => cases of_decide_eq_true kind
  · rintro ⟨width, member⟩
    obtain ⟨token, listed, inside⟩ := List.mem_flatMap.mp member
    cases token with
    | literal text => simp [Token.pieces] at inside
    | directive d =>
      obtain rfl := Piece.directive.inj (List.mem_singleton.mp inside)
      exact ⟨_, listed, decide_eq_true rfl⟩

theorem hasSequence_normalized (format : Format) :
    format.normalized.hasSequence = format.hasSequence := by
  apply Bool.eq_iff_iff.mpr
  rw [hasSequence_iff_pieces, pieces_normalized, ← hasSequence_iff_pieces]

theorem pieces_eq_of_normalized_eq {format other : Format}
    (normal : format.normalized = other.normalized) : format.pieces = other.pieces := by
  rw [← pieces_normalized format, normal, pieces_normalized]

theorem hasSequence_iff_of_normalized_eq {format other : Format}
    (normal : format.normalized = other.normalized) :
    format.hasSequence ↔ other.hasSequence := by
  rw [hasSequence_iff_pieces, pieces_eq_of_normalized_eq normal, ← hasSequence_iff_pieces]

/-- Identifiers of two formats with the same normal form are equal only if their ordinals are. -/
theorem ordinal_eq_of_render_eq {format other : Format} {first second : Context}
    {draws others : Feed Draw} (normal : format.normalized = other.normalized)
    (shows : format.hasSequence) (firstYear : first.now.FourDigitYear)
    (secondYear : second.now.FourDigitYear)
    (same : (format.render first draws).1 = (other.render second others).1) :
    first.ordinal = second.ordinal := by
  rw [render_eq, render_eq, ← pieces_eq_of_normalized_eq normal] at same
  have shown := String.ofList_injective same
  have listed := hasSequence_iff_pieces.mp shows
  rcases Nat.le_total first.ordinal second.ordinal with le | le
  · exact ordinal_eq_of_shownPieces_eq firstYear secondYear le listed shown
  · exact (ordinal_eq_of_shownPieces_eq secondYear firstYear le listed shown.symm).symm

end Format
end InventoryIds
