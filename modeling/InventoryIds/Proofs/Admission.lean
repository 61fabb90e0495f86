import InventoryIds.Format.Admission
import InventoryIds.Proofs.RoundTrip

/-!
# Admitted formats

A format is admitted exactly if its literals are free of opening braces and it keeps the limits
(`validate_eq_ok_iff`). Normal forms of admitted formats are admitted. Widths are not looked at,
and `compile_canonical` says what this means for the text of an admitted format.
-/

namespace InventoryIds

namespace Tally

def including (tally : Tally) (token : Token) : Tally :=
  { tally.increment token.kind with bytes := tally.bytes + token.canonical.utf8ByteSize }

theorem add_eq (tally : Tally) (token : Token) :
    tally.add token =
      if token.BraceFree then .ok (tally.including token)
      else .error (.invalidArgument .text tally.bytes .reservedCharacter) := by
  cases token with
  | literal text =>
    by_cases taken : '{' ∈ text.toList
    · exact (if_pos taken).trans (if_neg (fun free => free taken)).symm
    · exact (if_neg taken).trans (if_pos taken).symm
  | directive d => exact (if_pos trivial).symm

theorem foldlM_add_eq_ok_iff {tokens : List Token} {tally next : Tally} :
    tokens.foldlM add tally = .ok next ↔
      (∀ token ∈ tokens, token.BraceFree) ∧ next = tokens.foldl including tally := by
  induction tokens generalizing tally with
  | nil =>
    rw [List.foldlM_nil, pure_eq_ok_iff, List.foldl_nil]
    exact ⟨fun same => ⟨by simp, same.symm⟩, fun h => h.2.symm⟩
  | cons token tokens ih =>
    rw [List.foldlM_cons, add_eq, List.forall_mem_cons, List.foldl_cons, and_assoc]
    by_cases free : token.BraceFree
    · rw [if_pos free, ok_bind, ih]
      exact (and_iff_right free).symm
    · rw [if_neg free, error_bind]
      exact ⟨nofun, fun h => absurd h.1 free⟩

theorem foldlM_add_of_taken {before after : List Token} {text : String} {tally : Tally}
    (free : ∀ token ∈ before, token.BraceFree) (taken : '{' ∈ text.toList) :
    (before ++ .literal text :: after).foldlM add tally =
      .error (.invalidArgument .text (before.foldl including tally).bytes .reservedCharacter) := by
  have front : before.foldlM add tally = .ok (before.foldl including tally) :=
    foldlM_add_eq_ok_iff.mpr ⟨free, rfl⟩
  rw [List.foldlM_append, front, ok_bind, List.foldlM_cons, add, if_pos taken, error_bind]

theorem bytes_foldl_including (tokens : List Token) (tally : Tally) :
    (tokens.foldl including tally).bytes =
      tally.bytes + (Format.canonical ⟨tokens⟩).utf8ByteSize := by
  induction tokens generalizing tally with
  | nil => rfl
  | cons token tokens ih =>
    have text : Format.canonical ⟨token :: tokens⟩ =
        token.canonical ++ Format.canonical ⟨tokens⟩ := by
      rw [Format.canonical, List.map_cons, String.join_cons, Format.canonical]
    rw [List.foldl_cons, ih, text, String.utf8ByteSize_append, including, Nat.add_assoc]

theorem count_including (tally : Tally) (token : Token) {kind : Kind} (directive : kind ≠ .text) :
    (tally.including token).count kind =
      tally.count kind + if token.kind = kind then 1 else 0 := by
  unfold including
  generalize token.kind = counted
  cases kind <;> cases counted <;> simp_all [count, increment]

theorem count_foldl_including (tokens : List Token) (tally : Tally) {kind : Kind}
    (directive : kind ≠ .text) :
    (tokens.foldl including tally).count kind =
      tally.count kind + tokens.countP (·.kind = kind) := by
  induction tokens generalizing tally with
  | nil => rfl
  | cons token tokens ih =>
    rw [List.foldl_cons, ih, count_including _ _ directive, List.countP_cons]
    simp only [decide_eq_true_eq]
    omega

theorem overfull?_eq_none_iff {tally : Tally} {limit : Nat} :
    tally.overfull? limit = none ↔ ∀ kind, kind ≠ .text → tally.count kind ≤ limit := by
  unfold overfull?
  rw [List.find?_eq_none]
  constructor
  · intro all kind directive
    have listed : kind ∈ Kind.directives := by cases kind <;> first | decide | contradiction
    simpa using all kind listed
  · intro all kind listed
    have directive : kind ≠ .text := by
      rintro rfl
      exact absurd listed (by decide)
    simpa using all kind directive

end Tally

namespace Format

structure Within (format : Format) (policy : Policy) : Prop where
  perKind : ∀ kind, kind ≠ .text → format.count kind ≤ policy.maxPerKind.toNat
  total : format.length ≤ policy.maxTokens.toNat

theorem count_foldl_including (format : Format) {kind : Kind} (directive : kind ≠ .text) :
    (format.tokens.foldl Tally.including {}).count kind = format.count kind := by
  have start : Tally.count {} kind = 0 := by cases kind <;> rfl
  rw [Tally.count_foldl_including _ _ directive, start, Nat.zero_add]
  rfl

theorem validate_eq_ok_iff {format : Format} {policy : Policy} :
    format.validate policy = .ok () ↔ format.BraceFree ∧ format.Within policy := by
  unfold validate
  simp only [bind_eq_ok_iff, Tally.foldlM_add_eq_ok_iff]
  constructor
  · rintro ⟨tally, ⟨free, rfl⟩, checked⟩
    refine ⟨free, ?_⟩
    split at checked
    · cases checked
    · rename_i fits
      split at checked
      · cases checked
      · rename_i short
        constructor
        · intro kind directive
          rw [← count_foldl_including format directive]
          exact Tally.overfull?_eq_none_iff.mp fits kind directive
        · exact Nat.le_of_not_lt short
  · rintro ⟨free, perKind, total⟩
    refine ⟨_, ⟨free, rfl⟩, ?_⟩
    have fits : (format.tokens.foldl Tally.including {}).overfull? policy.maxPerKind.toNat = none :=
      Tally.overfull?_eq_none_iff.mpr fun kind directive => by
        rw [count_foldl_including format directive]
        exact perKind kind directive
    rw [fits]
    exact if_neg (Nat.not_lt_of_le total)

/-- The first literal with an opening brace is `text`, behind the tokens `before`. -/
structure FirstTaken (format : Format) (before : List Token) (text : String) : Prop where
  tokens : ∃ after, format.tokens = before ++ .literal text :: after
  free : BraceFree ⟨before⟩
  taken : '{' ∈ text.toList

theorem exists_firstTaken {format : Format} (taken : ¬format.BraceFree) :
    ∃ before text, format.FirstTaken before text := by
  obtain ⟨before, token, after, tokens, free, brace⟩ := exists_first_not taken
  cases token with
  | literal text => exact ⟨before, text, ⟨after, tokens⟩, free, not_not.mp brace⟩
  | directive d => exact absurd trivial brace

/-- The first literal with an opening brace is refused where it stands. -/
theorem validate_of_firstTaken {format : Format} {policy : Policy} {before : List Token}
    {text : String} (first : format.FirstTaken before text) :
    format.validate policy = .error (.invalidArgument .text
      (canonical ⟨before⟩).utf8ByteSize .reservedCharacter) := by
  obtain ⟨⟨after, tokens⟩, free, taken⟩ := first
  unfold validate
  rw [tokens, Tally.foldlM_add_of_taken free taken, error_bind, Tally.bytes_foldl_including,
    Nat.zero_add]

theorem validate_normalized {format : Format} {policy : Policy}
    (admitted : format.validate policy = .ok ()) : format.normalized.validate policy = .ok () := by
  obtain ⟨free, perKind, total⟩ := validate_eq_ok_iff.mp admitted
  refine validate_eq_ok_iff.mpr ⟨braceFree_normalized.mpr free, ?_, ?_⟩
  · intro kind directive
    rw [count_normalized _ directive]
    exact perKind kind directive
  · exact (length_normalized_le format).trans total

theorem compile_eq_ok_iff {text : String} {format : Format} {policy : Policy} :
    compile text policy = .ok format ↔
      parse text = .ok format ∧ format.validate policy = .ok () := by
  unfold compile
  simp only [bind_eq_ok_iff, pure_eq_ok_iff]
  constructor
  · rintro ⟨read, parsed, _, admitted, rfl⟩
    exact ⟨parsed, admitted⟩
  · rintro ⟨parsed, admitted⟩
    exact ⟨format, parsed, (), admitted, rfl⟩

theorem compile_eq_error_iff {text : String} {e : FormatError} {policy : Policy} :
    compile text policy = .error e ↔
      parse text = .error e ∨
        ∃ format, parse text = .ok format ∧ format.validate policy = .error e := by
  unfold compile
  cases parse text with
  | error fault => simp
  | ok format =>
    rw [ok_bind]
    cases judged : format.validate policy with
    | error fault => simp [judged]
    | ok admitted => simp [judged, pure, Except.pure]

/-- The text of an admitted format that can be written gives the normal form of the format. -/
theorem compile_canonical_of_inRange {format : Format} {policy : Policy}
    (admitted : format.validate policy = .ok ()) (range : format.InRange) :
    compile format.canonical policy = .ok format.normalized := by
  have free := (validate_eq_ok_iff.mp admitted).1
  have parsed := parse_canonical_eq_ok_iff.mpr ⟨free, range⟩
  exact compile_eq_ok_iff.mpr ⟨parsed, validate_normalized admitted⟩

/-- An admitted format comes back from its text exactly if it can be written; the first width out
of range is refused otherwise. -/
theorem compile_canonical {format : Format} {policy : Policy}
    (admitted : format.validate policy = .ok ()) :
    (compile format.canonical policy = .ok format.normalized ↔ format.InRange) ∧
    (¬format.InRange → ∃ before digits, format.FirstOutOfRange before digits ∧
      compile format.canonical policy = .error (.invalidArgument .sequence
        (canonical ⟨before⟩).utf8ByteSize (.widthOutOfRange digits.toNat))) := by
  have free := (validate_eq_ok_iff.mp admitted).1
  constructor
  · constructor
    · intro compiled
      obtain ⟨read, parsed, rest⟩ := bind_eq_ok_iff.mp compiled
      obtain ⟨_, _, same⟩ := bind_eq_ok_iff.mp rest
      obtain rfl := pure_eq_ok_iff.mp same
      exact (parse_canonical_eq_ok_iff.mp parsed).2
    · intro range
      unfold compile
      rw [parse_canonical_eq_ok_iff.mpr ⟨free, range⟩, ok_bind, validate_normalized admitted]
      rfl
  · intro out
    obtain ⟨before, digits, first⟩ := exists_firstOutOfRange out
    refine ⟨before, digits, first, ?_⟩
    unfold compile
    rw [parse_of_firstOutOfRange free first]
    rfl

theorem compile_canonical_two_formats :
    (validate ⟨[.literal "a", .literal "", .directive (.sequence (.explicit 20))]⟩ {} = .ok () ∧
      compile (canonical ⟨[.literal "a", .literal "", .directive (.sequence (.explicit 20))]⟩) {} =
        .ok ⟨[.literal "a", .directive (.sequence (.explicit 20))]⟩) ∧
    (validate ⟨[.directive .guid, .directive (.sequence (.explicit 21))]⟩ {} = .ok () ∧
      compile (canonical ⟨[.directive .guid, .directive (.sequence (.explicit 21))]⟩) {} ≠
        .ok (normalized ⟨[.directive .guid, .directive (.sequence (.explicit 21))]⟩)) := by
  refine ⟨⟨rfl, (compile_canonical rfl).1.mpr (by decide)⟩, rfl, fun compiled => ?_⟩
  exact absurd ((compile_canonical rfl).1.mp compiled) (by decide)

/-- Admission does not look at widths, so that not every admitted format comes back. -/
theorem exists_admitted_not_compiled :
    ¬∀ (format : Format) (policy : Policy), format.validate policy = .ok () →
      compile format.canonical policy = .ok format.normalized := by
  intro every
  have compiled := every ⟨[.directive (.sequence (.explicit 0))]⟩ {} rfl
  cases compiled

end Format
end InventoryIds
