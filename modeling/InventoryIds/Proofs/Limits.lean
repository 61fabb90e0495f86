import Mathlib.Data.List.Find
import InventoryIds.Proofs.Admission
import InventoryIds.Proofs.Refusals

/-!
# Limits

The limits that a format can exceed stand in the order in which they are looked at, each with its
own count of the tokens. If no literal holds an opening brace, the first limit that is exceeded is
the verdict on the format (`validate_of_braceFree`), in whatever order its tokens stand. The first
literal with a brace comes before all limits (`validate_eq_verdict`).
-/

namespace InventoryIds

theorem firstFault_map_mk {ε α : Type} (applies : α → Bool) (fault : α → ε) (list : List α) :
    firstFault (list.map fun a => ⟨applies a, fault a⟩) = (list.find? applies).map fault := by
  rw [firstFault, List.find?_map, Option.map_map]
  rfl

namespace Format

/-- The limits that can be exceeded, by the number of directives of each kind and by that of all
tokens. -/
def limitGrounds (format : Format) (policy : Policy) : List (Ground FormatError) :=
  ([.random, .guid, .date, .sequence].map fun kind =>
    ⟨policy.maxPerKind.toNat < format.count kind,
      .tooManyOfKind kind (format.count kind) policy.maxPerKind.toNat⟩) ++
  [⟨policy.maxTokens.toNat < format.length,
    .tooManyTokens format.length policy.maxTokens.toNat⟩]

variable {format other : Format} {policy : Policy}

theorem firstFault_limitGrounds :
    firstFault (format.limitGrounds policy) =
      ((Kind.directives.find? fun kind => policy.maxPerKind.toNat < format.count kind).map
        fun kind => .tooManyOfKind kind (format.count kind) policy.maxPerKind.toNat).or
      (firstFault [⟨policy.maxTokens.toNat < format.length,
        .tooManyTokens format.length policy.maxTokens.toNat⟩]) := by
  rw [limitGrounds, firstFault_append, firstFault_map_mk]
  rfl

theorem count_foldl_including_of_mem {kind : Kind} (listed : kind ∈ Kind.directives) :
    (format.tokens.foldl Tally.including {}).count kind = format.count kind := by
  apply count_foldl_including
  rintro rfl
  exact absurd listed (by decide)

theorem overfull?_foldl_including (limit : Nat) :
    (format.tokens.foldl Tally.including {}).overfull? limit =
      Kind.directives.find? fun kind => limit < format.count kind :=
  List.find?_congr fun _ listed => by rw [count_foldl_including_of_mem listed]

/-- Without a brace in a literal, the first limit that is exceeded is reported. -/
theorem validate_of_braceFree (free : format.BraceFree) (policy : Policy) :
    format.validate policy = (firstFault (format.limitGrounds policy)).elim (.ok ()) .error := by
  have counted : format.tokens.foldlM Tally.add {} =
      .ok (format.tokens.foldl Tally.including {}) := Tally.foldlM_add_eq_ok_iff.mpr ⟨free, rfl⟩
  rw [validate, counted, ok_bind, overfull?_foldl_including, firstFault_limitGrounds]
  cases found : Kind.directives.find? fun kind => policy.maxPerKind.toNat < format.count kind with
  | some kind =>
    have listed := List.mem_of_find?_eq_some found
    simp only [count_foldl_including_of_mem listed]
    rfl
  | none =>
    by_cases long : policy.maxTokens.toNat < format.length
    · rw [firstFault_cons_of long]
      exact if_pos long
    · rw [firstFault_cons_of_not long]
      exact if_neg long

theorem isLimitError_of_mem_limitGrounds {ground : Ground FormatError}
    (member : ground ∈ format.limitGrounds policy) : ground.fault.isLimitError := by
  rcases List.mem_append.mp member with kinds | total
  · obtain ⟨kind, -, rfl⟩ := List.mem_map.mp kinds
    rfl
  · obtain rfl := List.mem_singleton.mp total
    rfl

theorem exists_limitGround_of_validate_error (free : format.BraceFree) {e : FormatError}
    (refused : format.validate policy = .error e) :
    ∃ ground ∈ format.limitGrounds policy, ground.fault = e := by
  rw [validate_of_braceFree free] at refused
  cases first : firstFault (format.limitGrounds policy) with
  | none =>
    rw [first] at refused
    cases refused
  | some fault =>
    rw [first] at refused
    obtain rfl := Except.error.inj refused
    exact mem_of_firstFault first

theorem isLimitError_of_validate_error (free : format.BraceFree) {e : FormatError}
    (refused : format.validate policy = .error e) : e.isLimitError := by
  obtain ⟨ground, member, rfl⟩ := exists_limitGround_of_validate_error free refused
  exact isLimitError_of_mem_limitGrounds member

theorem limitGrounds_perm (same : other.tokens.Perm format.tokens) (policy : Policy) :
    other.limitGrounds policy = format.limitGrounds policy := by
  have counts (kind : Kind) : other.count kind = format.count kind := same.countP_eq _
  have length : other.length = format.length := same.length_eq
  simp only [limitGrounds, counts, length]

theorem braceFree_perm (same : other.tokens.Perm format.tokens) (free : format.BraceFree) :
    other.BraceFree :=
  fun token member => free token (same.subset member)

theorem exists_canonical_of_firstTaken {before : List Token} {text : String}
    (first : format.FirstTaken before text) :
    ∃ rest, format.canonical = canonical ⟨before⟩ ++ text ++ rest := by
  obtain ⟨⟨after, tokens⟩, -, -⟩ := first
  refine ⟨canonical ⟨after⟩, ?_⟩
  simp [canonical, tokens, Token.canonical, String.append_assoc]

/-- The verdict on a format. The first literal with an opening brace is refused at the byte where
it stands in the text, whatever the limits. Without one, the first limit that is exceeded is
reported, and the order of the tokens does not matter. -/
theorem validate_eq_verdict (format : Format) (policy : Policy) :
    (¬format.BraceFree → ∃ before text, format.FirstTaken before text) ∧
    (∀ before text, format.FirstTaken before text →
      format.validate policy =
        .error (.invalidArgument .text (canonical ⟨before⟩).utf8ByteSize .reservedCharacter) ∧
      ∃ rest, format.canonical = canonical ⟨before⟩ ++ text ++ rest) ∧
    (format.BraceFree →
      format.validate policy = (firstFault (format.limitGrounds policy)).elim (.ok ()) .error ∧
      ∀ other : Format, other.tokens.Perm format.tokens →
        other.validate policy = format.validate policy) := by
  refine ⟨exists_firstTaken, fun before text first => ?_, fun free => ⟨?_, fun other same => ?_⟩⟩
  · exact ⟨validate_of_firstTaken first, exists_canonical_of_firstTaken first⟩
  · exact validate_of_braceFree free policy
  · rw [validate_of_braceFree (braceFree_perm same free), validate_of_braceFree free,
      limitGrounds_perm same]

theorem validate_eq_verdict_four_formats :
    validate ⟨[.directive .guid, .literal "ü", .directive .guid, .literal "a\x7b", .literal "\x7b"]⟩
        { maxPerKind := 1, maxTokens := 1 } =
      .error (.invalidArgument .text 14 .reservedCharacter) ∧
    validate ⟨[.directive (.sequence .standard), .directive .guid, .directive (.sequence .standard),
        .directive .guid]⟩ { maxPerKind := 1, maxTokens := 1 } =
      .error (.tooManyOfKind .guid 2 1) ∧
    validate ⟨[.literal "", .literal "", .directive .guid]⟩ { maxPerKind := 1, maxTokens := 2 } =
      .error (.tooManyTokens 3 2) ∧
    validate ⟨[.directive .guid, .literal "b", .literal "a"]⟩ {} =
      validate ⟨[.literal "a", .directive .guid, .literal "b"]⟩ {} := by
  have taken : FirstTaken
      ⟨[.directive .guid, .literal "ü", .directive .guid, .literal "a\x7b", .literal "\x7b"]⟩
      [.directive .guid, .literal "ü", .directive .guid] "a\x7b" :=
    ⟨⟨_, rfl⟩, by decide, by decide⟩
  exact ⟨((validate_eq_verdict _ _).2.1 _ _ taken).1, ((validate_eq_verdict _ _).2.2 (by decide)).1,
    ((validate_eq_verdict _ _).2.2 (by decide)).1,
    ((validate_eq_verdict _ _).2.2 (by decide)).2 _ (by decide)⟩

end Format
end InventoryIds
