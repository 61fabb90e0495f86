import InventoryIds.Proofs.NormalForm

/-!
# Texts and formats

The texts that are read are the canonical texts of normal formats that can be written, each of one
such format (`parse_eq_ok_iff`). `parse_canonical` says what comes of reading the text of any
format, and `canonical_parse` what reading tells about the text.
-/

namespace InventoryIds.Format

theorem parse_eq_ok_iff {text : String} {format : Format} :
    parse text = .ok format ↔
      format.canonical = text ∧ format.IsNormal ∧ format.BraceFree ∧ format.InRange := by
  unfold parse
  simp only [bind_eq_ok_iff, pure_eq_ok_iff, readPieces_eq_ok_iff, ← pieces_writable_iff]
  constructor
  · rintro ⟨pieces, ⟨written, writable⟩, rfl⟩
    refine ⟨?_, isNormal_ofPieces pieces, by rwa [pieces_ofPieces]⟩
    rw [← String.toList_inj, toList_canonical, pieces_ofPieces, written]
  · rintro ⟨rfl, normal, writable⟩
    exact ⟨format.pieces, ⟨toList_canonical format, writable⟩, normalized_eq_self normal⟩

theorem parse_canonical_eq_ok_iff {format : Format} :
    parse format.canonical = .ok format.normalized ↔ format.BraceFree ∧ format.InRange := by
  rw [parse_eq_ok_iff, ← pieces_writable_iff, pieces_normalized, pieces_writable_iff]
  exact ⟨fun read => read.2.2,
    fun writable => ⟨canonical_normalized format, isNormal_ofPieces _, writable⟩⟩

/-! ### Widths out of range -/

/-- The first width that cannot be written is `digits`, behind the tokens `before`. -/
structure FirstOutOfRange (format : Format) (before : List Token) (digits : UInt8) : Prop where
  tokens : ∃ after, format.tokens = before ++ .directive (.sequence (.explicit digits)) :: after
  inRange : InRange ⟨before⟩
  out : ¬(OrdinalWidth.explicit digits).InRange

/-- A list with an exception has a first one. -/
theorem exists_first_not {α : Type} {p : α → Prop} [DecidablePred p] {list : List α}
    (exception : ¬∀ a ∈ list, p a) :
    ∃ before a after, list = before ++ a :: after ∧ (∀ b ∈ before, p b) ∧ ¬p a := by
  have found : (list.find? fun a => decide ¬p a).isSome := by
    rw [List.find?_isSome]
    simpa using exception
  obtain ⟨a, first⟩ := Option.isSome_iff_exists.mp found
  obtain ⟨out, before, after, same, inside⟩ := List.find?_eq_some_iff_append.mp first
  exact ⟨before, a, after, same, fun b member => by simpa using inside b member,
    of_decide_eq_true out⟩

theorem exists_firstOutOfRange {format : Format} (out : ¬format.InRange) :
    ∃ before digits, format.FirstOutOfRange before digits := by
  obtain ⟨before, token, after, tokens, narrow, wide⟩ := exists_first_not out
  cases token with
  | literal text => exact absurd trivial wide
  | directive d =>
    cases d with
    | sequence width =>
      cases width with
      | standard => exact absurd trivial wide
      | explicit digits => exact ⟨before, digits, ⟨after, tokens⟩, narrow, wide⟩
    | _ => exact absurd trivial wide

/-- Reading stops at the first width out of range. -/
theorem parse_of_firstOutOfRange {format : Format} {before : List Token} {digits : UInt8}
    (free : format.BraceFree) (first : format.FirstOutOfRange before digits) :
    parse format.canonical = .error (.invalidArgument .sequence (canonical ⟨before⟩).utf8ByteSize
      (.widthOutOfRange digits.toNat)) := by
  obtain ⟨⟨after, tokens⟩, range, out⟩ := first
  have writable : ∀ piece ∈ pieces ⟨before⟩, piece.Writable := pieces_writable_iff.mpr
    ⟨fun token member => free token (tokens ▸ List.mem_append_left _ member), range⟩
  have offset : (canonical ⟨before⟩).utf8ByteSize =
      String.utf8Len ((pieces ⟨before⟩).flatMap Piece.chars) := by
    rw [← toList_canonical, String.utf8Len_toList]
  have text : format.canonical.toList =
      (pieces ⟨before⟩).flatMap Piece.chars ++
        (Piece.chars (.directive (.sequence (.explicit digits))) ++
          (pieces ⟨after⟩).flatMap Piece.chars) := by
    simp [toList_canonical, pieces, tokens, Token.pieces]
  -- All tokens in front are read, so the reader stands at the directive that cannot be.
  unfold parse
  rw [text, readPieces_append writable, readPieces_directive, Directive.ofBody_of_not_inRange out,
    offset, Nat.zero_add]
  rfl

/-! ### Round trips -/

/-- The text of a format is read as the normal form of the format if it can be written; a width
out of range is refused where it stands, and an opening brace in a literal never comes back. -/
theorem parse_canonical (format : Format) :
    (format.BraceFree → format.InRange → parse format.canonical = .ok format.normalized) ∧
    (format.BraceFree → ¬format.InRange → ∃ before digits, format.FirstOutOfRange before digits ∧
      parse format.canonical = .error (.invalidArgument .sequence
        (canonical ⟨before⟩).utf8ByteSize (.widthOutOfRange digits.toNat))) ∧
    (¬format.BraceFree → parse format.canonical ≠ .ok format.normalized) := by
  refine ⟨fun free range => parse_canonical_eq_ok_iff.mpr ⟨free, range⟩, ?_, ?_⟩
  · intro free out
    obtain ⟨before, digits, first⟩ := exists_firstOutOfRange out
    exact ⟨before, digits, first, parse_of_firstOutOfRange free first⟩
  · exact fun taken read => taken (parse_canonical_eq_ok_iff.mp read).1

theorem parse_canonical_three_formats :
    parse (canonical ⟨[.literal "a\x7d", .literal "", .literal ":ü", .directive .guid]⟩) =
        .ok ⟨[.literal "a\x7d:ü", .directive .guid]⟩ ∧
      parse (canonical ⟨[.literal "ü", .directive (.sequence (.explicit 0)), .literal "b"]⟩) =
        .error (.invalidArgument .sequence 2 (.widthOutOfRange 0)) ∧
      parse (canonical ⟨[.literal "\x7bSEQ", .literal "\x7d"]⟩) ≠
        .ok (normalized ⟨[.literal "\x7bSEQ", .literal "\x7d"]⟩) := by
  refine ⟨(parse_canonical _).1 (by decide) (by decide), ?_,
    (parse_canonical _).2.2 (by decide)⟩
  obtain ⟨before, digits, ⟨⟨after, tokens⟩, -, -⟩, read⟩ := (parse_canonical
    ⟨[.literal "ü", .directive (.sequence (.explicit 0)), .literal "b"]⟩).2.1
      (by decide) (by decide)
  match before with
  | [] => cases tokens
  | [_] =>
    cases tokens
    exact read
  | [_, _] => cases tokens
  | _ :: _ :: _ :: _ => simp at tokens

/-- A text that is read is the text of what is read, which is normal and can be written. -/
theorem canonical_parse {text : String} {format : Format} (read : parse text = .ok format) :
    format.canonical = text ∧ (∀ other, parse other = .ok format → other = text) ∧
      format.normalized = format ∧ format.IsNormal ∧ format.BraceFree ∧ format.InRange := by
  obtain ⟨written, normal, free, range⟩ := parse_eq_ok_iff.mp read
  refine ⟨written, ?_, normalized_eq_self normal, normal, free, range⟩
  intro other readOther
  exact (parse_eq_ok_iff.mp readOther).1.symm.trans written

theorem canonical_parse_mixed_text :
    ∃ format, parse "A\x7dB:C-\x7bSEQ:12\x7dü" = .ok format ∧
      format.canonical = "A\x7dB:C-\x7bSEQ:12\x7dü" ∧
      (∀ other, parse other = .ok format → other = "A\x7dB:C-\x7bSEQ:12\x7dü") ∧
      format.normalized = format ∧ format.IsNormal ∧ format.BraceFree ∧ format.InRange :=
  ⟨⟨[.literal "A\x7dB:C-", .directive (.sequence (.explicit 12)), .literal "ü"]⟩, rfl,
    canonical_parse rfl⟩

end InventoryIds.Format
