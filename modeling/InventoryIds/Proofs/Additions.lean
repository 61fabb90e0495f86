import InventoryIds.Proofs.Editing
import InventoryIds.Proofs.Limits

/-!
# Added tokens

An addition looks at the limit of one kind and at the total, and a whole format is judged by all
its limits. Behind a format that keeps them, only the kind of the new token can be too many
(`find?_overfull_concat`). So both come to the same verdict, error and all (`push_eq_validate`).
-/

namespace InventoryIds.Format
variable {format : Format} {policy : Policy} {token : Token}

/-- The format with one token more, judged as a whole. -/
def extended (format : Format) (token : Token) (policy : Policy) : Except FormatError Format :=
  (validate ⟨format.tokens ++ [token]⟩ policy).map fun _ => ⟨format.tokens ++ [token]⟩

/-- What is said of the format with one token more, and the format that is kept. -/
def judged (format : Format) (token : Token) (policy : Policy) : EditOutcome × Format :=
  match validate ⟨format.tokens ++ [token]⟩ policy with
  | .ok () => (.done, ⟨format.tokens ++ [token]⟩)
  | .error e => (.refused e, format)

theorem added_extended (format : Format) (token : Token) (policy : Policy) :
    format.added (format.extended token policy) = format.judged token policy := by
  unfold extended judged
  cases validate ⟨format.tokens ++ [token]⟩ policy <;> rfl

theorem exceeds_concat_iff (within : format.Within policy) {kind : Kind}
    (directive : kind ≠ .text) :
    policy.maxPerKind.toNat < count ⟨format.tokens ++ [token]⟩ kind ↔
      token.kind = kind ∧ policy.maxPerKind.toNat < format.count kind + 1 := by
  rw [count_concat]
  by_cases same : token.kind = kind
  · rw [if_pos same, and_iff_right same]
  · rw [if_neg same, Nat.add_zero]
    have fits := within.perKind kind directive
    exact ⟨fun exceeds => absurd fits (Nat.not_le_of_lt exceeds), fun other => absurd other.1 same⟩

/-- Behind a format within the limits, the first kind of which there are too many is that of the
new token, if there is one. -/
theorem find?_overfull_concat (within : format.Within policy) (token : Token) :
    (Kind.directives.find? fun kind =>
      policy.maxPerKind.toNat < count ⟨format.tokens ++ [token]⟩ kind) =
      if token.kind.isDirective ∧ policy.maxPerKind.toNat < format.count token.kind + 1 then
        some token.kind
      else none := by
  have directive {kind : Kind} (listed : kind ∈ Kind.directives) : kind ≠ .text := by
    rintro rfl
    exact absurd listed (by decide)
  split
  case isTrue tooMany =>
    obtain ⟨isDirective, tooMany⟩ := tooMany
    have listed : token.kind ∈ Kind.directives := by
      revert isDirective
      cases token.kind <;> decide
    cases found : Kind.directives.find? fun kind =>
        policy.maxPerKind.toNat < count ⟨format.tokens ++ [token]⟩ kind with
    | none =>
      have fits := List.find?_eq_none.mp found token.kind listed
      have exceeds := (exceeds_concat_iff within (directive listed)).mpr ⟨rfl, tooMany⟩
      exact absurd (decide_eq_true exceeds) fits
    | some kind =>
      have kindListed := List.mem_of_find?_eq_some found
      have exceeds : policy.maxPerKind.toNat < count ⟨format.tokens ++ [token]⟩ kind := by
        simpa using List.find?_some found
      rw [((exceeds_concat_iff within (directive kindListed)).mp exceeds).1]
  case isFalse fits =>
    refine List.find?_eq_none.mpr fun kind listed exceeds => fits ?_
    obtain ⟨same, tooMany⟩ :=
      (exceeds_concat_iff within (directive listed)).mp (of_decide_eq_true exceeds)
    subst same
    exact ⟨bne_iff_ne.mpr (directive listed), tooMany⟩

theorem push_eq_extended (admitted : format.validate policy = .ok ()) (free : token.BraceFree) :
    format.push token policy = format.extended token policy := by
  obtain ⟨braceFree, within⟩ := validate_eq_ok_iff.mp admitted
  have count : count ⟨format.tokens ++ [token]⟩ token.kind = format.count token.kind + 1 := by
    rw [count_concat, if_pos rfl]
  have length : length ⟨format.tokens ++ [token]⟩ = format.length + 1 := List.length_append
  rw [extended, validate_of_braceFree (BraceFree.concat braceFree free), firstFault_limitGrounds,
    find?_overfull_concat within, push]
  by_cases tooMany : token.kind.isDirective ∧ policy.maxPerKind.toNat < format.count token.kind + 1
  · rw [if_pos tooMany, if_pos tooMany, Option.map_some, Option.some_or, count]
    rfl
  · rw [if_neg tooMany, if_neg tooMany, Option.map_none, Option.none_or, length]
    by_cases long : policy.maxTokens.toNat < format.length + 1
    · rw [if_pos long, firstFault_cons_of long]
      rfl
    · rw [if_neg long, firstFault_cons_of_not long]
      rfl

theorem isLimitError_of_push_error {e : FormatError}
    (refused : format.push token policy = .error e) :
    e.isLimitError := by
  unfold push at refused
  dsimp only at refused
  split at refused
  · obtain rfl := Except.error.inj refused
    rfl
  split at refused
  · obtain rfl := Except.error.inj refused
    rfl
  · cases refused

theorem braceFree_standard (kind : Kind) : (Token.standard kind).BraceFree := by
  cases kind <;> decide

/-- Adding a token to an admitted format comes to what judging the longer format comes to: the
same limit is reported with the same numbers and the format stays, or the token stands at the
end. -/
theorem push_eq_validate (admitted : format.validate policy = .ok ()) :
    (∀ token : Token, token.BraceFree →
      format.push token policy = format.extended token policy ∧
      (∀ e, format.push token policy = .error e → e.isLimitError) ∧
      format.apply policy (.push token) = format.judged token policy) ∧
    ∀ kind : Kind,
      format.pushKind kind policy = format.extended (Token.standard kind) policy ∧
      format.apply policy (.pushKind kind) = format.judged (Token.standard kind) policy := by
  constructor
  · intro token free
    have same := push_eq_extended admitted free
    refine ⟨same, fun e refused => isLimitError_of_push_error refused, ?_⟩
    rw [apply, same, added_extended]
  · intro kind
    have same : format.pushKind kind policy = format.extended (Token.standard kind) policy :=
      push_eq_extended admitted (braceFree_standard kind)
    refine ⟨same, ?_⟩
    rw [apply, same, added_extended]

theorem push_eq_validate_full_format :
    ∃ (policy : Policy) (format : Format), format.validate policy = .ok () ∧
      format.push (.directive .guid) policy = .error (.tooManyOfKind .guid 2 1) ∧
      validate ⟨format.tokens ++ [.directive .guid]⟩ policy = .error (.tooManyOfKind .guid 2 1) ∧
      format.apply policy (.push (.literal "")) = (.refused (.tooManyTokens 3 2), format) ∧
      validate ⟨format.tokens ++ [.literal ""]⟩ policy = .error (.tooManyTokens 3 2) ∧
      format.apply policy (.pushKind .date) = (.refused (.tooManyTokens 3 2), format) := by
  let policy : Policy := { maxPerKind := 1, maxTokens := 2 }
  let format : Format := ⟨[.directive .guid, .directive (.sequence .standard)]⟩
  have admitted : format.validate policy = .ok () := rfl
  obtain ⟨tokens, kinds⟩ := push_eq_validate admitted
  exact ⟨policy, format, admitted, (tokens (.directive .guid) (by decide)).1, rfl,
    (tokens (.literal "") (by decide)).2.2, rfl, (kinds .date).2⟩

end InventoryIds.Format
