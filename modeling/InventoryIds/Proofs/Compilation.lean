import InventoryIds.Proofs.Limits

/-!
# Compiling format texts

A text is read before the limits are looked at, so a fault of the text is reported under every
policy. What is read has no opening brace in a literal, which leaves nothing to be refused but
limits, and wider limits refuse less (`compile_staged`).
-/

namespace InventoryIds

namespace FormatError

def kind? : FormatError → Option Kind
  | invalidArgument kind _ _ | tooManyOfKind kind _ _ => some kind
  | malformedDirective _ | unknownDirective _ _ | tooManyTokens _ _ => none

def issue? : FormatError → Option ArgumentIssue
  | invalidArgument _ _ issue => some issue
  | malformedDirective _ | unknownDirective _ _ | tooManyOfKind _ _ _ | tooManyTokens _ _ => none

/-- The error is about literals, or about a character that they may not hold. -/
def BlamesLiteral (error : FormatError) : Prop :=
  error.kind? = some .text ∨ error.issue? = some .reservedCharacter

instance (error : FormatError) : Decidable error.BlamesLiteral :=
  inferInstanceAs (Decidable (_ ∨ _))

variable {error : FormatError}

theorem offset?_eq_none_iff : error.offset? = none ↔ error.isLimitError := by
  cases error <;> simp [offset?, isLimitError]

theorem isSyntaxError_iff : error.isSyntaxError ↔ error.offset?.isSome := by
  cases error <;> simp [offset?, isSyntaxError]

theorem not_isSyntaxError_of_isLimitError (limit : error.isLimitError) :
    ¬error.isSyntaxError := by
  rw [isSyntaxError_iff, offset?_eq_none_iff.mpr limit]
  exact Bool.false_ne_true

theorem not_blamesLiteral_invalidArgument {kind : Kind} {issue : ArgumentIssue}
    (directive : kind ≠ .text) (other : issue ≠ .reservedCharacter) (offset : Nat) :
    ¬(invalidArgument kind offset issue).BlamesLiteral := by
  rintro (text | reserved)
  · exact directive (Option.some.inj text)
  · exact other (Option.some.inj reserved)

end FormatError

/-! ### Faults of texts -/

namespace Directive

theorem ne_text_of_lookup_heads {head : String} {kind : Kind}
    (known : heads.lookup head = some kind) : kind ≠ .text := by
  rw [← ofHead?_eq_lookup] at known
  rintro rfl
  exact Bool.false_ne_true (Kind.ofHead?_eq_some_iff.mp known).2

theorem argumentGrounds_ne_reservedCharacter (argument : String) (kind : Kind) :
    ∀ ground ∈ argumentGrounds argument kind, ground.fault ≠ .reservedCharacter := by
  cases kind <;> simp [argumentGrounds, numberGrounds]

theorem surplusGrounds_ne_reservedCharacter (more : List String) :
    ∀ ground ∈ surplusGrounds more, ground.fault ≠ .reservedCharacter := by
  cases more <;> simp [surplusGrounds]

theorem argumentsGrounds_ne_reservedCharacter {kind : Kind} {arguments : List String} :
    ∀ ground ∈ argumentsGrounds kind arguments, ground.fault ≠ .reservedCharacter := by
  unfold argumentsGrounds
  split
  · exact surplusGrounds_ne_reservedCharacter _
  · simp
  · simp
  · simp only [List.forall_mem_cons, List.forall_mem_append]
    exact ⟨by simp, argumentGrounds_ne_reservedCharacter _ _, surplusGrounds_ne_reservedCharacter _⟩

theorem not_blamesLiteral_of_mem_grounds {offset : Nat} {rest : List Char} :
    ∀ ground ∈ grounds offset rest, ¬ground.fault.BlamesLiteral := by
  unfold grounds bodyGrounds fieldsGrounds
  simp only [List.forall_mem_cons]
  refine ⟨nofun, nofun, nofun, fun ground member => ?_⟩
  split at member
  · obtain rfl := List.mem_singleton.mp member
    exact nofun
  · rename_i kind known
    obtain ⟨issue, listed, rfl⟩ := List.mem_map.mp member
    exact FormatError.not_blamesLiteral_invalidArgument (ne_text_of_lookup_heads known)
      (argumentsGrounds_ne_reservedCharacter issue listed) offset

end Directive

namespace Format
variable {text : String} {format : Format} {policy wider : Policy} {error : FormatError}

theorem isSyntaxError_of_parse_error (unread : parse text = .error error) :
    error.isSyntaxError :=
  FormatError.isSyntaxError_iff.mpr (isSome_offset?_of_parse_error unread)

theorem braceFree_of_parse (read : parse text = .ok format) : format.BraceFree :=
  (parse_eq_ok_iff.mp read).2.2.1

/-! ### Limits -/

theorem not_blamesLiteral_of_mem_limitGrounds {ground : Ground FormatError}
    (member : ground ∈ format.limitGrounds policy) : ¬ground.fault.BlamesLiteral := by
  rcases List.mem_append.mp member with kinds | total
  · obtain ⟨kind, listed, rfl⟩ := List.mem_map.mp kinds
    -- Only kinds of directives have a limit of their own.
    rintro (text | reserved)
    · obtain rfl := Option.some.inj text
      exact absurd listed (by decide)
    · cases reserved
  · obtain rfl := List.mem_singleton.mp total
    exact nofun

theorem Within.mono (within : format.Within policy)
    (perKind : policy.maxPerKind ≤ wider.maxPerKind)
    (total : policy.maxTokens ≤ wider.maxTokens) : format.Within wider where
  perKind kind directive := (within.perKind kind directive).trans (UInt64.le_iff_toNat_le.mp perKind)
  total := within.total.trans (UInt64.le_iff_toNat_le.mp total)

/-! ### Compiling -/

theorem compile_syntax_error_iff :
    compile text policy = .error error ∧ error.isSyntaxError ↔ parse text = .error error := by
  constructor
  · rintro ⟨refused, syntaxError⟩
    rcases compile_eq_error_iff.mp refused with unread | ⟨format, read, exceeded⟩
    · exact unread
    · have limit := isLimitError_of_validate_error (braceFree_of_parse read) exceeded
      exact absurd syntaxError (FormatError.not_isSyntaxError_of_isLimitError limit)
  · intro unread
    exact ⟨compile_eq_error_iff.mpr (.inl unread), isSyntaxError_of_parse_error unread⟩

/-- A text is refused for a limit exactly if it is read as a format that exceeds one. -/
theorem isLimitError_iff_of_compile_error (refused : compile text policy = .error error) :
    error.isLimitError ↔ ∃ format, parse text = .ok format ∧ ¬format.Within policy := by
  rcases compile_eq_error_iff.mp refused with unread | ⟨format, read, exceeded⟩
  · constructor
    · intro limit
      exact absurd (isSyntaxError_of_parse_error unread)
        (FormatError.not_isSyntaxError_of_isLimitError limit)
    · rintro ⟨format, read, -⟩
      rw [read] at unread
      cases unread
  · have free := braceFree_of_parse read
    constructor
    · intro _
      refine ⟨format, read, fun within => ?_⟩
      rw [validate_eq_ok_iff.mpr ⟨free, within⟩] at exceeded
      cases exceeded
    · intro _
      exact isLimitError_of_validate_error free exceeded

theorem exists_compile_error_of_not_within (read : parse text = .ok format)
    (exceeds : ¬format.Within policy) : ∃ error, compile text policy = .error error := by
  cases judged : format.validate policy with
  | error error => exact ⟨error, compile_eq_error_iff.mpr (.inr ⟨format, read, judged⟩)⟩
  | ok admitted => exact absurd (validate_eq_ok_iff.mp judged).2 exceeds

theorem not_blamesLiteral_of_compile_error (refused : compile text policy = .error error) :
    ¬error.BlamesLiteral := by
  rcases compile_eq_error_iff.mp refused with unread | ⟨format, read, exceeded⟩
  · obtain ⟨offset, rest, ground, member, rfl⟩ := exists_ground_of_parse_error unread
    exact Directive.not_blamesLiteral_of_mem_grounds ground member
  · obtain ⟨ground, member, rfl⟩ :=
      exists_limitGround_of_validate_error (braceFree_of_parse read) exceeded
    exact not_blamesLiteral_of_mem_limitGrounds member

theorem compile_mono (perKind : policy.maxPerKind ≤ wider.maxPerKind)
    (total : policy.maxTokens ≤ wider.maxTokens) (compiled : compile text policy = .ok format) :
    compile text wider = .ok format := by
  obtain ⟨read, admitted⟩ := compile_eq_ok_iff.mp compiled
  obtain ⟨free, within⟩ := validate_eq_ok_iff.mp admitted
  -- Which limit would be reported first does not matter: both hold, and both are wider.
  exact compile_eq_ok_iff.mpr
    ⟨read, validate_eq_ok_iff.mpr ⟨free, within.mono perKind total⟩⟩

/-- Compiling has two stages. A fault of the text is that of reading it, under every policy; a
limit is reported exactly if the text is read and its format exceeds one; no error is about
literals. What is accepted stays so within wider limits, and the examples of previews do not
matter. -/
theorem compile_staged (text : String) (policy : Policy) :
    (∀ error : FormatError,
      compile text policy = .error error ∧ error.isSyntaxError ↔ parse text = .error error) ∧
    (∀ (error : FormatError) (other : Policy), parse text = .error error →
      compile text other = .error error) ∧
    ((∃ error : FormatError, compile text policy = .error error ∧ error.isLimitError) ↔
      ∃ format, parse text = .ok format ∧ ¬format.Within policy) ∧
    (∀ error : FormatError, compile text policy = .error error → ¬error.BlamesLiteral) ∧
    (∀ (format : Format) (wider : Policy), policy.maxPerKind ≤ wider.maxPerKind →
      policy.maxTokens ≤ wider.maxTokens → compile text policy = .ok format →
      compile text wider = .ok format) ∧
    ∀ examples, compile text { policy with previewExamples := examples } = compile text policy := by
  refine ⟨fun error => compile_syntax_error_iff, ?everywhere, ?limits,
    fun error refused => not_blamesLiteral_of_compile_error refused,
    fun format wider perKind total compiled => compile_mono perKind total compiled,
    fun examples => rfl⟩
  case everywhere =>
    intro error other unread
    exact (compile_syntax_error_iff.mpr unread).1
  case limits =>
    constructor
    · rintro ⟨error, refused, limit⟩
      exact (isLimitError_iff_of_compile_error refused).mp limit
    · rintro ⟨format, read, exceeds⟩
      obtain ⟨error, refused⟩ := exists_compile_error_of_not_within read exceeds
      exact ⟨error, refused,
        (isLimitError_iff_of_compile_error refused).mpr ⟨format, read, exceeds⟩⟩

theorem compile_staged_two_texts :
    ∃ (faulty sound : String) (error : FormatError) (format : Format) (narrow policy wider : Policy),
      faulty = "ü{GUID}{GUID}{SEQ:0}" ∧ parse faulty = .error error ∧
      error = .invalidArgument .sequence 14 (.widthOutOfRange 0) ∧
      compile faulty narrow = .error error ∧ compile faulty wider = .error error ∧
      ¬error.BlamesLiteral ∧
      sound = "ü{GUID}{GUID}" ∧ parse sound = .ok format ∧ ¬format.Within narrow ∧
      (∃ limit : FormatError, compile sound narrow = .error limit ∧ limit.isLimitError) ∧
      compile sound policy = .ok format ∧
      policy.maxPerKind < wider.maxPerKind ∧ policy.maxTokens < wider.maxTokens ∧
      compile sound wider = .ok format := by
  let format : Format := ⟨[.literal "ü", .directive .guid, .directive .guid]⟩
  let narrow : Policy := { maxPerKind := 1, maxTokens := 2 }
  let policy : Policy := { maxPerKind := 2, maxTokens := 3 }
  have read : parse "ü{GUID}{GUID}" = .ok format := rfl
  have unread : parse "ü{GUID}{GUID}{SEQ:0}" =
      .error (.invalidArgument .sequence 14 (.widthOutOfRange 0)) := rfl
  have compiled : compile "ü{GUID}{GUID}" policy = .ok format := rfl
  have exceeds : ¬format.Within narrow := fun within => absurd within.total (by decide)
  obtain ⟨-, everywhere, -, literals, -, -⟩ := compile_staged "ü{GUID}{GUID}{SEQ:0}" narrow
  have refused := everywhere _ narrow unread
  have limit := (compile_staged "ü{GUID}{GUID}" narrow).2.2.1.mpr ⟨format, read, exceeds⟩
  have wide := (compile_staged "ü{GUID}{GUID}" policy).2.2.2.2.1 format {} (by decide) (by decide)
    compiled
  exact ⟨_, _, _, format, narrow, policy, {}, rfl, unread, rfl, refused, everywhere _ _ unread,
    literals _ refused, rfl, read, exceeds, limit, compiled, by decide, by decide, wide⟩

end Format
end InventoryIds
