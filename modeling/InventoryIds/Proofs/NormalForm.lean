import Mathlib.Data.List.Chain
import InventoryIds.Proofs.Reading

/-!
# Normal formats

A format is normal if it has neither empty nor neighbouring literals. Gathering pieces gives the
one normal format of these pieces (`isNormal_ofPieces`, `normalized_eq_self`).
-/

namespace InventoryIds

def Piece.kind : Piece → Kind
  | char _ => .text
  | directive d => d.kind

namespace Token

def BraceFree : Token → Prop
  | literal text => '{' ∉ text.toList
  | directive _ => True

def InRange : Token → Prop
  | literal _ => True
  | directive d => d.InRange

instance (token : Token) : Decidable token.BraceFree :=
  match token with
  | .literal _ => inferInstanceAs (Decidable (_ ∉ _))
  | .directive _ => isTrue trivial

instance (token : Token) : Decidable token.InRange :=
  match token with
  | .literal _ => isTrue trivial
  | .directive d => inferInstanceAs (Decidable d.InRange)

/-- Two tokens that are not both literals. -/
def Apart (left right : Token) : Prop := left.kind ≠ .text ∨ right.kind ≠ .text

theorem kind_directive_ne_text (directive : Directive) : (Token.directive directive).kind ≠ .text := by
  cases directive <;> simp [kind, Directive.kind]

theorem apart_directive_left (directive : Directive) (right : Token) :
    Apart (.directive directive) right :=
  .inl (kind_directive_ne_text directive)

theorem apart_directive_right (left : Token) (directive : Directive) :
    Apart left (.directive directive) :=
  .inr (kind_directive_ne_text directive)

theorem pieces_writable_iff {token : Token} :
    (∀ piece ∈ token.pieces, piece.Writable) ↔ token.BraceFree ∧ token.InRange := by
  cases token with
  | literal text =>
    simp only [pieces, List.mem_map, BraceFree, InRange, and_true]
    constructor
    · exact fun writable member => writable _ ⟨_, member, rfl⟩ rfl
    · rintro free _ ⟨c, member, rfl⟩ rfl
      exact free member
  | directive d => simp [pieces, Piece.Writable, BraceFree, InRange]

end Token

namespace Format

/-- No literal holds an opening brace. -/
def BraceFree (format : Format) : Prop := ∀ token ∈ format.tokens, token.BraceFree

def InRange (format : Format) : Prop := ∀ token ∈ format.tokens, token.InRange

instance (format : Format) : Decidable format.BraceFree :=
  inferInstanceAs (Decidable (∀ token ∈ format.tokens, token.BraceFree))

instance (format : Format) : Decidable format.InRange :=
  inferInstanceAs (Decidable (∀ token ∈ format.tokens, token.InRange))

/-- Neither empty nor neighbouring literals. -/
structure IsNormal (format : Format) : Prop where
  nonempty : .literal "" ∉ format.tokens
  apart : format.tokens.IsChain Token.Apart

theorem pieces_writable_iff {format : Format} :
    (∀ piece ∈ format.pieces, piece.Writable) ↔ format.BraceFree ∧ format.InRange := by
  simp only [pieces, List.mem_flatMap, BraceFree, InRange, ← forall₂_and]
  constructor
  · exact fun writable token member =>
      Token.pieces_writable_iff.mp fun piece inside => writable piece ⟨token, member, inside⟩
  · rintro tokens piece ⟨token, member, inside⟩
    exact Token.pieces_writable_iff.mpr (tokens token member) piece inside

/-! ### Gathering -/

theorem literalOfRun_reverse {text : String} (nonempty : text ≠ "") :
    literalOfRun text.toList.reverse = [.literal text] := by
  unfold literalOfRun
  split
  · rename_i empty
    exact absurd (by simpa using empty) nonempty
  · simp

theorem gather_append (run cs : List Char) (pieces : List Piece) :
    gather run (cs.map .char ++ pieces) = gather (cs.reverse ++ run) pieces := by
  induction cs generalizing run with
  | nil => rfl
  | cons c cs ih => simp [gather, ih]

theorem gather_directive (run : List Char) (directive : Directive) (pieces : List Piece) :
    gather run (.directive directive :: pieces) =
      literalOfRun run ++ gather [] (.directive directive :: pieces) := rfl

theorem isNormal_literalOfRun (run : List Char) : IsNormal ⟨literalOfRun run⟩ := by
  cases run with
  | nil => exact ⟨by simp [literalOfRun], .nil⟩
  | cons c run => exact ⟨by simp [literalOfRun, ← String.toList_inj], .singleton _⟩

theorem isNormal_gather (run : List Char) (pieces : List Piece) : IsNormal ⟨gather run pieces⟩ := by
  -- The run is arbitrary, since every character makes it longer.
  induction pieces generalizing run with
  | nil => exact isNormal_literalOfRun run
  | cons piece pieces ih =>
    cases piece with
    | char c => exact ih (c :: run)
    | directive d =>
      obtain ⟨nonempty, apart⟩ := ih []
      obtain ⟨nonemptyRun, apartRun⟩ := isNormal_literalOfRun run
      constructor
      · simpa [gather] using ⟨nonemptyRun, nonempty⟩
      · refine apartRun.append (List.isChain_cons.mpr ⟨?_, apart⟩) ?_
        · exact fun right _ => Token.apart_directive_left d right
        · intro left _ right first
          obtain rfl := Option.some.inj first
          exact Token.apart_directive_right left d

theorem isNormal_ofPieces (pieces : List Piece) : (ofPieces pieces).IsNormal :=
  isNormal_gather [] pieces

/-- Gathering the pieces of a normal format gives it back. -/
theorem normalized_eq_self {format : Format} (normal : format.IsNormal) :
    format.normalized = format := by
  obtain ⟨tokens⟩ := format
  suffices gathered : gather [] (tokens.flatMap Token.pieces) = tokens from congrArg mk gathered
  obtain ⟨nonempty, apart⟩ := normal
  induction tokens with
  | nil => rfl
  | cons token tokens ih =>
    have rest := ih (fun empty => nonempty (List.mem_cons_of_mem _ empty)) apart.tail
    cases token with
    | directive d => exact congrArg (Token.directive d :: ·) rest
    | literal text =>
      have filled : text ≠ "" := fun empty => nonempty (empty ▸ List.mem_cons_self)
      rw [List.flatMap_cons, Token.pieces, gather_append, List.append_nil]
      cases tokens with
      | nil => exact literalOfRun_reverse filled
      | cons next tokens =>
        cases next with
        | literal other =>
          -- Two literals side by side would be joined.
          exact absurd (List.isChain_cons_cons.mp apart).1 (by simp [Token.Apart, Token.kind])
        | directive d =>
          rw [List.flatMap_cons, Token.pieces, List.singleton_append] at rest ⊢
          rw [gather_directive, rest, literalOfRun_reverse filled, List.singleton_append]

theorem pieces_normalized (format : Format) : format.normalized.pieces = format.pieces :=
  pieces_ofPieces format.pieces

theorem canonical_normalized (format : Format) : format.normalized.canonical = format.canonical := by
  rw [← String.toList_inj, toList_canonical, toList_canonical, pieces_normalized]

theorem braceFree_iff_pieces {format : Format} :
    format.BraceFree ↔ .char '{' ∉ format.pieces := by
  simp only [BraceFree, pieces, List.mem_flatMap, not_exists, not_and]
  refine forall₂_congr fun token _ => ?_
  cases token <;> simp [Token.BraceFree, Token.pieces]

theorem braceFree_normalized {format : Format} : format.normalized.BraceFree ↔ format.BraceFree := by
  rw [braceFree_iff_pieces, pieces_normalized, ← braceFree_iff_pieces]

/-! ### Counts -/

theorem countP_pieces (token : Token) {kind : Kind} (directive : kind ≠ .text) :
    token.pieces.countP (·.kind = kind) = if token.kind = kind then 1 else 0 := by
  cases token with
  | literal text =>
    have none : ∀ piece ∈ text.toList.map Piece.char, ¬decide (piece.kind = kind) = true := by
      intro piece member
      obtain ⟨c, -, rfl⟩ := List.mem_map.mp member
      exact fun same => directive (of_decide_eq_true same).symm
    exact (List.countP_eq_zero.mpr none).trans (if_neg (Ne.symm directive)).symm
  | directive d =>
    rw [Token.pieces, List.countP_cons, List.countP_nil, Nat.zero_add]
    by_cases same : d.kind = kind
    · simp [Token.kind, Piece.kind, same]
    · simp [Token.kind, Piece.kind, same]

/-- The directives of a kind are counted alike in the tokens and in the pieces. -/
theorem count_eq_countP_pieces (format : Format) {kind : Kind} (directive : kind ≠ .text) :
    format.count kind = format.pieces.countP (·.kind = kind) := by
  obtain ⟨tokens⟩ := format
  unfold count pieces
  induction tokens with
  | nil => rfl
  | cons token tokens ih =>
    rw [List.countP_cons, List.flatMap_cons, List.countP_append, ih, countP_pieces token directive,
      Nat.add_comm]
    simp

theorem count_normalized (format : Format) {kind : Kind} (directive : kind ≠ .text) :
    format.normalized.count kind = format.count kind := by
  rw [count_eq_countP_pieces _ directive, count_eq_countP_pieces _ directive, pieces_normalized]

theorem length_literalOfRun_le (run : List Char) : (literalOfRun run).length ≤ 1 := by
  cases run <;> simp [literalOfRun]

/-- Gathering makes no more tokens than the pieces came from, but for the open run. -/
theorem length_gather_le (run : List Char) (tokens : List Token) :
    (gather run (tokens.flatMap Token.pieces)).length ≤
      (literalOfRun run).length + tokens.length := by
  induction tokens generalizing run with
  | nil => simp [gather]
  | cons token tokens ih =>
    rw [List.flatMap_cons]
    cases token with
    | literal text =>
      have rest := ih (text.toList.reverse ++ run)
      rw [Token.pieces, gather_append, List.length_cons]
      by_cases empty : text = ""
      · subst empty
        exact rest.trans (by simp)
      · have bound := length_literalOfRun_le (text.toList.reverse ++ run)
        omega
    | directive d =>
      have rest := ih []
      simp only [Token.pieces, List.singleton_append, gather, List.length_append, List.length_cons,
        literalOfRun, List.length_nil] at rest ⊢
      omega

theorem length_normalized_le (format : Format) : format.normalized.length ≤ format.length := by
  have bound := length_gather_le [] format.tokens
  rw [literalOfRun, List.length_nil, Nat.zero_add] at bound
  exact bound

end Format
end InventoryIds
