import InventoryIds.Proofs.RoundTrip

/-!
# The grammar of format texts

A text is a format text exactly if it can be cut into directive texts and single characters other
than an opening brace. There is one way to cut it, and reading gives the format of that cut, with
each longest run of characters as one literal (`parse_iff_cut`).
-/

namespace InventoryIds

def codeSpellings : List (String × RandomCode) :=
  [("6", .six), ("9", .nine), ("20", .twenty), ("32", .thirtyTwo)]

def patternSpellings : List (String × DatePattern) :=
  [("yyyy", .year), ("yy", .shortYear), ("yyyyMM", .yearMonth), ("yyyy-MM", .dashedYearMonth),
    ("yyyyMMdd", .compact), ("yyyy-MM-dd", .dashed), ("yyMMdd", .shortCompact),
    ("ddMMyyyy", .dayFirst), ("MMddyyyy", .monthFirst), ("dd.MM.yyyy", .dotted),
    ("yyyyMMddHHmm", .minuteStamp), ("HHmmss", .timeOfDay)]

/-- The texts of directives, braces included. -/
inductive Directive.Spelled : String → Directive → Prop where
  | guid : Spelled "\x7bGUID\x7d" .guid
  | sequence : Spelled "\x7bSEQ\x7d" (.sequence .standard)
  | width {n : Nat} (least : 1 ≤ n) (most : n ≤ 20) :
    Spelled ("\x7bSEQ:" ++ n.repr ++ "\x7d") (.sequence (.explicit (UInt8.ofNat n)))
  | random {bits : String} {code : RandomCode} (listed : (bits, code) ∈ codeSpellings) :
    Spelled ("\x7bRANDOM:" ++ bits ++ "\x7d") (.random code)
  | date {spelling : String} {pattern : DatePattern}
    (listed : (spelling, pattern) ∈ patternSpellings) :
    Spelled ("\x7bDATE:" ++ spelling ++ "\x7d") (.date pattern)

/-- A text cut into characters other than an opening brace and texts of directives. -/
inductive Cut : List Char → List Piece → Prop where
  | nil : Cut [] []
  | char {c : Char} {cs : List Char} {pieces : List Piece} (plain : c ≠ '{')
    (rest : Cut cs pieces) : Cut (c :: cs) (.char c :: pieces)
  | directive {text : String} {d : Directive} {cs : List Char} {pieces : List Piece}
    (spelled : d.Spelled text) (rest : Cut cs pieces) :
    Cut (text.toList ++ cs) (.directive d :: pieces)

/-! ### Directive texts -/

theorem mem_codeSpellings_iff {bits : String} {code : RandomCode} :
    (bits, code) ∈ codeSpellings ↔ bits = code.bits.repr := by
  cases code <;> simp [codeSpellings, RandomCode.bits, Nat.repr, Nat.toDigits, Nat.toDigitsCore,
    Nat.digitChar]

theorem mem_patternSpellings_iff {spelling : String} {pattern : DatePattern} :
    (spelling, pattern) ∈ patternSpellings ↔ spelling = pattern.spelling := by
  cases pattern <;> simp [patternSpellings, DatePattern.spelling]

namespace Directive

theorem canonical_random (code : RandomCode) :
    canonical (.random code) = "\x7bRANDOM:" ++ code.bits.repr ++ "\x7d" := by
  rw [← String.toList_inj]
  simp [canonical, argument?, kind, Kind.head]

theorem canonical_date (pattern : DatePattern) :
    canonical (.date pattern) = "\x7bDATE:" ++ pattern.spelling ++ "\x7d" := by
  rw [← String.toList_inj]
  simp [canonical, argument?, kind, Kind.head]

theorem canonical_width (digits : UInt8) :
    canonical (.sequence (.explicit digits)) = "\x7bSEQ:" ++ digits.toNat.repr ++ "\x7d" := by
  rw [← String.toList_inj]
  simp [canonical, argument?, kind, Kind.head, OrdinalWidth.explicit?]

theorem spelled_iff {text : String} {directive : Directive} :
    directive.Spelled text ↔ text = directive.canonical ∧ directive.InRange := by
  constructor
  · intro spelled
    cases spelled with
    | guid => exact ⟨rfl, trivial⟩
    | sequence => exact ⟨rfl, trivial⟩
    | @width n least most =>
      have small : n < UInt8.size := Nat.lt_of_le_of_lt most (by decide)
      have value : (UInt8.ofNat n).toNat = n := UInt8.toNat_ofNat_of_lt small
      rw [canonical_width, InRange, OrdinalWidth.InRange, value]
      exact ⟨rfl, least, most⟩
    | random listed =>
      rw [canonical_random, mem_codeSpellings_iff.mp listed]
      exact ⟨rfl, trivial⟩
    | date listed =>
      rw [canonical_date, mem_patternSpellings_iff.mp listed]
      exact ⟨rfl, trivial⟩
  · rintro ⟨rfl, range⟩
    cases directive with
    | guid => exact .guid
    | random code =>
      rw [canonical_random]
      exact .random (mem_codeSpellings_iff.mpr rfl)
    | date pattern =>
      rw [canonical_date]
      exact .date (mem_patternSpellings_iff.mpr rfl)
    | sequence width =>
      cases width with
      | standard => exact .sequence
      | explicit digits =>
        rw [canonical_width]
        have spelled := Spelled.width range.1 range.2
        rwa [UInt8.ofNat_toNat] at spelled

end Directive

/-! ### Cuts -/

/-- The cuts of a text are the pieces that it is the text of, if all of them can be written. -/
theorem cut_iff {cs : List Char} {pieces : List Piece} :
    Cut cs pieces ↔ cs = pieces.flatMap Piece.chars ∧ ∀ piece ∈ pieces, piece.Writable := by
  constructor
  · intro cut
    induction cut with
    | nil => exact ⟨rfl, by simp⟩
    | char plain _ ih =>
      obtain ⟨rfl, writable⟩ := ih
      exact ⟨rfl, List.forall_mem_cons.mpr ⟨plain, writable⟩⟩
    | directive spelled _ ih =>
      obtain ⟨rfl, writable⟩ := ih
      obtain ⟨rfl, range⟩ := Directive.spelled_iff.mp spelled
      exact ⟨rfl, List.forall_mem_cons.mpr ⟨range, writable⟩⟩
  · rintro ⟨rfl, writable⟩
    induction pieces with
    | nil => exact .nil
    | cons piece pieces ih =>
      obtain ⟨first, others⟩ := List.forall_mem_cons.mp writable
      cases piece with
      | char c => exact .char first (ih others)
      | directive d => exact .directive (Directive.spelled_iff.mpr ⟨rfl, first⟩) (ih others)

theorem cut_iff_readPieces {cs : List Char} {pieces : List Piece} (position : Nat) :
    Cut cs pieces ↔ Format.readPieces none position cs = .ok pieces :=
  cut_iff.trans Format.readPieces_eq_ok_iff.symm

theorem Cut.unique {cs : List Char} {left right : List Piece} (first : Cut cs left)
    (second : Cut cs right) : left = right := by
  have readLeft := (cut_iff_readPieces 0).mp first
  have readRight := (cut_iff_readPieces 0).mp second
  exact Except.ok.inj (readLeft.symm.trans readRight)

namespace Format

theorem parse_eq_ok_iff_cut {text : String} {format : Format} :
    parse text = .ok format ↔ Cut text.toList format.pieces ∧ format.IsNormal := by
  rw [parse_eq_ok_iff, cut_iff, pieces_writable_iff, ← toList_canonical, String.toList_inj]
  constructor
  · rintro ⟨rfl, normal, writable⟩
    exact ⟨⟨rfl, writable⟩, normal⟩
  · rintro ⟨⟨rfl, writable⟩, normal⟩
    exact ⟨rfl, normal, writable⟩

theorem exists_parse_of_cut {text : String} {pieces : List Piece} (cut : Cut text.toList pieces) :
    ∃ format, parse text = .ok format := by
  refine ⟨ofPieces pieces, parse_eq_ok_iff_cut.mpr ⟨?_, isNormal_ofPieces pieces⟩⟩
  rwa [pieces_ofPieces]

/-- The texts that are read are those that can be cut; a text can be cut in one way, and reading
gives the format with the pieces of the cut and with neither empty nor neighbouring literals. -/
theorem parse_iff_cut (text : String) :
    ((∃ format, parse text = .ok format) ↔ ∃ pieces, Cut text.toList pieces) ∧
    (∀ left right, Cut text.toList left → Cut text.toList right → left = right) ∧
    ∀ format, parse text = .ok format ↔ Cut text.toList format.pieces ∧ format.IsNormal := by
  refine ⟨⟨?_, ?_⟩, fun _ _ => Cut.unique, fun _ => parse_eq_ok_iff_cut⟩
  · rintro ⟨format, read⟩
    exact ⟨format.pieces, (parse_eq_ok_iff_cut.mp read).1⟩
  · rintro ⟨pieces, cut⟩
    exact exists_parse_of_cut cut

theorem parse_iff_cut_two_texts :
    parse "ü\x7d:\x7bSEQ:20\x7d\x7bRANDOM:9\x7d" =
      .ok ⟨[.literal "ü\x7d:", .directive (.sequence (.explicit 20)), .directive (.random .nine)]⟩ ∧
      ¬∃ pieces, Cut "\x7bSEQ:020\x7d".toList pieces := by
  constructor
  · refine ((parse_iff_cut _).2.2 _).mpr ⟨cut_iff.mpr ⟨rfl, by decide⟩, ?_⟩
    exact isNormal_ofPieces [.char 'ü', .char '\x7d', .char ':',
      .directive (.sequence (.explicit 20)), .directive (.random .nine)]
  · intro cut
    obtain ⟨format, read⟩ := (parse_iff_cut _).1.mpr cut
    cases read

end Format
end InventoryIds
