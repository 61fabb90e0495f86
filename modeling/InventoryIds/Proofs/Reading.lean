import Mathlib.Data.String.Basic
import InventoryIds.Format.Reading
import InventoryIds.Proofs.Directives

/-!
# Texts and pieces

A format text is read as pieces exactly if it is the text of these pieces and each of them can be
written (`readPieces_eq_ok_iff`). Pieces at the front of a text are read before what stands behind
them (`readPieces_append`).
-/

namespace InventoryIds

/-- A piece that can be written in a format text. -/
def Piece.Writable : Piece → Prop
  | char c => c ≠ '{'
  | directive d => d.InRange

instance (piece : Piece) : Decidable piece.Writable :=
  match piece with
  | .char _ => inferInstanceAs (Decidable (_ ≠ _))
  | .directive d => inferInstanceAs (Decidable d.InRange)

theorem Piece.chars_directive (directive : Directive) :
    Piece.chars (.directive directive) = '{' :: (directive.body ++ ['}']) :=
  directive.toList_canonical

namespace Format

/-! ### Front to back -/

theorem readPieces_char {c : Char} (plain : c ≠ '{') (position : Nat) (rest : List Char) :
    readPieces none position (c :: rest) = do
      let pieces ← readPieces none (position + c.utf8Size) rest
      return .char c :: pieces :=
  if_neg plain

/-- An open directive is read up to the closing brace. -/
theorem readPieces_opened {body : List Char} (plain : ∀ c ∈ body, c ≠ '{' ∧ c ≠ '}')
    (offset position : Nat) (read rest : List Char) :
    readPieces (some ⟨offset, read⟩) position (body ++ '}' :: rest) = do
      let directive ← Directive.ofBody offset (read.reverse ++ body)
      let pieces ← readPieces none (position + String.utf8Len (body ++ ['}'])) rest
      return .directive directive :: pieces := by
  induction body generalizing position read with
  | nil => simp [readPieces]
  | cons c body ih =>
    obtain ⟨opening, closing⟩ := plain c List.mem_cons_self
    have place : position + String.utf8Len (c :: body ++ ['}']) =
        position + c.utf8Size + String.utf8Len (body ++ ['}']) := by
      rw [List.cons_append, String.utf8Len_cons]
      omega
    rw [List.cons_append, readPieces, if_neg opening, if_neg closing,
      ih fun c member => plain c (List.mem_cons_of_mem _ member), place]
    simp

theorem readPieces_directive (directive : Directive) (position : Nat) (rest : List Char) :
    readPieces none position (Piece.chars (.directive directive) ++ rest) = do
      let directive' ← Directive.ofBody position directive.body
      let pieces ←
        readPieces none (position + String.utf8Len (Piece.chars (.directive directive))) rest
      return .directive directive' :: pieces := by
  have plain : ∀ c ∈ directive.body, c ≠ '{' ∧ c ≠ '}' := fun _ => Directive.brace_not_mem_body
  have opened := readPieces_opened plain position (position + '{'.utf8Size) [] rest
  have place : position + String.utf8Len (Piece.chars (.directive directive)) =
      position + '{'.utf8Size + String.utf8Len (directive.body ++ ['}']) := by
    rw [Piece.chars_directive, String.utf8Len_cons]
    omega
  rw [place, Piece.chars_directive]
  simpa [readPieces] using opened

/-- Pieces at the front of a text are read as they are, and then the rest. -/
theorem readPieces_append {pieces : List Piece} (writable : ∀ piece ∈ pieces, piece.Writable)
    (position : Nat) (rest : List Char) :
    readPieces none position (pieces.flatMap Piece.chars ++ rest) = do
      let more ← readPieces none (position + String.utf8Len (pieces.flatMap Piece.chars)) rest
      return pieces ++ more := by
  induction pieces generalizing position with
  | nil => simp
  | cons piece pieces ih =>
    have first := writable piece List.mem_cons_self
    have others := ih fun p member => writable p (List.mem_cons_of_mem _ member)
    rw [List.flatMap_cons, List.append_assoc, String.utf8Len_append, ← Nat.add_assoc]
    cases piece with
    | char c =>
      rw [Piece.chars, List.singleton_append, readPieces_char first, others]
      simp
    | directive d =>
      rw [readPieces_directive, Directive.ofBody_eq_ok_iff.mpr ⟨rfl, first⟩, ok_bind, others]
      simp

/-! ### What is read -/

def openedText : Option OpenDirective → List Char
  | none => []
  | some opened => '{' :: opened.body.reverse

/-- What is read has the text that it was read from. -/
theorem flatMap_chars_of_readPieces {opened : Option OpenDirective} {position : Nat}
    {cs : List Char} {pieces : List Piece} (read : readPieces opened position cs = .ok pieces) :
    openedText opened ++ cs = pieces.flatMap Piece.chars ∧ ∀ piece ∈ pieces, piece.Writable := by
  -- Along the recursion of the reader; what is open counts as read, brace and all.
  fun_induction readPieces opened position cs generalizing pieces with
  | case1 position =>
    obtain rfl := Except.ok.inj read
    exact ⟨rfl, by simp⟩
  | case2 position opened => cases read
  | case3 position cs ih => exact ih read
  | case4 position c cs plain ih =>
    obtain ⟨more, readMore, same⟩ := bind_eq_ok_iff.mp read
    obtain rfl := pure_eq_ok_iff.mp same
    obtain ⟨text, writable⟩ := ih readMore
    exact ⟨congrArg (c :: ·) text, List.forall_mem_cons.mpr ⟨plain, writable⟩⟩
  | case5 opened position cs => cases read
  | case6 opened position cs _ ih =>
    obtain ⟨directive, readBody, read⟩ := bind_eq_ok_iff.mp read
    obtain ⟨more, readMore, same⟩ := bind_eq_ok_iff.mp read
    obtain rfl := pure_eq_ok_iff.mp same
    obtain ⟨text, writable⟩ := ih readMore
    obtain ⟨body, range⟩ := Directive.ofBody_eq_ok_iff.mp readBody
    refine ⟨?_, List.forall_mem_cons.mpr ⟨range, writable⟩⟩
    rw [List.flatMap_cons, ← text, Piece.chars_directive, ← body]
    simp [openedText]
  | case7 opened position c cs opening closing ih =>
    obtain ⟨text, writable⟩ := ih read
    refine ⟨?_, writable⟩
    rw [← text]
    simp [openedText]

/-- A text is read as pieces exactly if it is theirs and each of them can be written. -/
theorem readPieces_eq_ok_iff {position : Nat} {cs : List Char} {pieces : List Piece} :
    readPieces none position cs = .ok pieces ↔
      cs = pieces.flatMap Piece.chars ∧ ∀ piece ∈ pieces, piece.Writable := by
  constructor
  · exact flatMap_chars_of_readPieces
  · rintro ⟨rfl, writable⟩
    have read := readPieces_append writable position []
    simpa [readPieces] using read

end Format
end InventoryIds
