import InventoryIds.Proofs.Grammar

/-!
# Refused format texts

The grounds on which a directive is refused stand in the order in which they are looked at, each
with its condition, and the first that applies is reported. A text is refused exactly if such a
directive stands behind a front that is read (`parse_eq_error_iff`).
-/

namespace InventoryIds

/-- A fault, and whether it is there. -/
structure Ground (ε : Type) where
  applies : Bool
  fault : ε

def firstFault {ε : Type} (grounds : List (Ground ε)) : Option ε :=
  (grounds.find? Ground.applies).map Ground.fault

def Ground.map {ε δ : Type} (f : ε → δ) (ground : Ground ε) : Ground δ :=
  ⟨ground.applies, f ground.fault⟩

namespace Directive

/-- The number that digits write, cut off at the last word of 32 bits. -/
def argumentValue (argument : String) : Nat :=
  min (Nat.ofDigitChars 10 argument.toList 0) (2 ^ 32 - 1)

def numberGrounds (argument : String) : List (Ground ArgumentIssue) :=
  [⟨¬argument.toList.all Char.isDigit, .notNumeric argument⟩,
    ⟨argument.toList.head? = some '0' ∧ argument ≠ "0", .leadingZero argument⟩]

/-- The grounds on which the first argument of a directive is refused, if it is not empty. -/
def argumentGrounds (argument : String) : Kind → List (Ground ArgumentIssue)
  | .random => numberGrounds argument ++
    [⟨argumentValue argument ∉ [6, 9, 20, 32], .unsupportedBits (argumentValue argument)⟩]
  | .date => [⟨argument ∉ patternSpellings.map Prod.fst, .unknownDatePattern argument⟩]
  | .sequence => numberGrounds argument ++
    [⟨¬(1 ≤ argumentValue argument ∧ argumentValue argument ≤ 20),
      .widthOutOfRange (argumentValue argument)⟩]
  | .guid | .text => []

def surplusGrounds : List String → List (Ground ArgumentIssue)
  | [] => []
  | extra :: _ => [⟨true, .unexpected extra⟩]

def argumentsGrounds : Kind → List String → List (Ground ArgumentIssue)
  | .guid, arguments => surplusGrounds arguments
  | .sequence, [] => []
  | _, [] => [⟨true, .missing⟩]
  | kind, argument :: more =>
    ⟨argument = "", .missing⟩ :: (argumentGrounds argument kind ++ surplusGrounds more)

def heads : List (String × Kind) :=
  [("RANDOM", .random), ("GUID", .guid), ("DATE", .date), ("SEQ", .sequence)]

def fieldsGrounds (offset : Nat) (head : String) (arguments : List String) :
    List (Ground FormatError) :=
  ⟨head = "", .malformedDirective offset⟩ ::
    match heads.lookup head with
    | none => [⟨true, .unknownDirective head offset⟩]
    | some kind => (argumentsGrounds kind arguments).map (.map (.invalidArgument kind offset))

def bodyGrounds (offset : Nat) (body : List Char) : List (Ground FormatError) :=
  let fields := (body.splitOn ':').map String.ofList
  fieldsGrounds offset (fields.headD "") fields.tail

/-- The grounds on which the directive at byte `offset` is refused, from the text behind its
opening brace. -/
def grounds (offset : Nat) (rest : List Char) : List (Ground FormatError) :=
  let body := rest.takeWhile (· ≠ '}')
  ⟨'}' ∉ rest, .malformedDirective offset⟩ :: ⟨'{' ∈ body, .malformedDirective offset⟩ ::
    bodyGrounds offset body

end Directive

/-- The byte that a fault of a text is reported at. -/
def FormatError.offset? : FormatError → Option Nat
  | malformedDirective offset => some offset
  | unknownDirective _ offset => some offset
  | invalidArgument _ offset _ => some offset
  | tooManyOfKind _ _ _ | tooManyTokens _ _ => none

/-! ### First faults -/

section
variable {ε δ : Type}

theorem firstFault_cons_of {condition : Prop} [Decidable condition] (holds : condition) (fault : ε)
    (grounds : List (Ground ε)) : firstFault (⟨condition, fault⟩ :: grounds) = some fault := by
  simp [firstFault, holds]

theorem firstFault_cons_of_not {condition : Prop} [Decidable condition] (fails : ¬condition)
    (fault : ε) (grounds : List (Ground ε)) :
    firstFault (⟨condition, fault⟩ :: grounds) = firstFault grounds := by
  simp [firstFault, fails]

theorem firstFault_append (first second : List (Ground ε)) :
    firstFault (first ++ second) = (firstFault first).or (firstFault second) := by
  unfold firstFault
  rw [List.find?_append]
  cases first.find? Ground.applies <;> rfl

theorem firstFault_map (f : ε → δ) (grounds : List (Ground ε)) :
    firstFault (grounds.map (.map f)) = (firstFault grounds).map f := by
  unfold firstFault
  rw [List.find?_map, Option.map_map, Option.map_map]
  rfl

theorem mem_of_firstFault {grounds : List (Ground ε)} {fault : ε}
    (first : firstFault grounds = some fault) : ∃ ground ∈ grounds, ground.fault = fault := by
  obtain ⟨ground, found, same⟩ := Option.map_eq_some_iff.mp first
  exact ⟨ground, List.mem_of_find?_eq_some found, same⟩

end

/-! ### Arguments -/

theorem RandomCode.error?_ofBits (bits : Nat) :
    error? (ofBits bits) = firstFault [⟨bits ∉ [6, 9, 20, 32], .unsupportedBits bits⟩] := by
  unfold ofBits
  split
  · rename_i code found
    have same := List.find?_some found
    rw [firstFault_cons_of_not]
    · rfl
    · rw [← beq_iff_eq.mp same]
      cases code <;> decide
  · rename_i missed
    rw [firstFault_cons_of]
    · rfl
    · rw [List.find?_eq_none] at missed
      intro listed
      have supported : ∃ code ∈ all, code.bits = bits := by
        simp only [List.mem_cons, List.not_mem_nil, or_false] at listed
        rcases listed with rfl | rfl | rfl | rfl <;> decide
      obtain ⟨code, member, same⟩ := supported
      exact missed code member (beq_iff_eq.mpr same)

theorem DatePattern.error?_ofSpelling (text : String) :
    error? (ofSpelling text) =
      firstFault [⟨text ∉ patternSpellings.map Prod.fst, .unknownDatePattern text⟩] := by
  unfold ofSpelling
  split
  · rename_i pattern found
    have same := List.find?_some found
    have listed := mem_patternSpellings_iff.mpr (beq_iff_eq.mp same).symm
    rw [firstFault_cons_of_not (not_not_intro (List.mem_map_of_mem listed))]
    rfl
  · rename_i missed
    rw [firstFault_cons_of]
    · rfl
    · rw [List.find?_eq_none] at missed
      intro listed
      obtain ⟨⟨spelling, pattern⟩, member, rfl⟩ := List.mem_map.mp listed
      have same := mem_patternSpellings_iff.mp member
      exact missed pattern (by cases pattern <;> decide) (beq_iff_eq.mpr same.symm)

theorem OrdinalWidth.error?_ofNat (width : Nat) :
    error? (ofNat width) = firstFault [⟨¬(1 ≤ width ∧ width ≤ 20), .widthOutOfRange width⟩] := by
  unfold ofNat maxDigits
  by_cases range : 1 ≤ width ∧ width ≤ 20
  · rw [if_pos range, firstFault_cons_of_not (not_not_intro range)]
    rfl
  · rw [if_neg range, firstFault_cons_of range]
    rfl

namespace Directive

theorem readNumber_eq {argument : String} (nonempty : argument ≠ "") :
    readNumber argument =
      (firstFault (numberGrounds argument)).elim (.ok (argumentValue argument)) .error := by
  obtain ⟨c, cs, text⟩ : ∃ c cs, argument.toList = c :: cs :=
    List.exists_cons_of_ne_nil (by simpa using nonempty)
  have zero : (argument.toList.head? = some '0' ∧ argument ≠ "0") ↔ (c = '0' ∧ cs ≠ []) := by
    rw [Ne, ← String.toList_inj, text, List.head?_cons, Option.some.injEq]
    refine and_congr_right fun leads => ?_
    subst leads
    simp
  have read : readNumber argument =
      if !(c :: cs).all Char.isDigit then .error (.notNumeric argument)
      else if c = '0' ∧ cs ≠ [] then .error (.leadingZero argument)
      else .ok (argumentValue argument) := by
    unfold readNumber argumentValue
    rw [text]
    rfl
  rw [read, numberGrounds, ← text]
  by_cases plain : argument.toList.all Char.isDigit
  · rw [firstFault_cons_of_not (not_not_intro plain), plain, Bool.not_true,
      if_neg Bool.false_ne_true]
    by_cases leading : c = '0' ∧ cs ≠ []
    · rw [firstFault_cons_of (zero.mpr leading), if_pos leading]
      rfl
    · rw [firstFault_cons_of_not fun h => leading (zero.mp h), if_neg leading]
      rfl
  · rw [firstFault_cons_of plain, Bool.eq_false_of_not_eq_true plain]
    rfl

theorem required_cons {argument : String} (nonempty : argument ≠ "") (more : List String) :
    required (argument :: more) = .ok (argument, more) :=
  required_eq_ok_iff.mpr ⟨rfl, nonempty⟩

/-- A reader of a first argument refuses it if it is empty, and else on its own grounds. -/
theorem error?_required_bind {α : Type} {argument : String} {more : List String}
    {read : String × List String → Except ArgumentIssue α} {grounds : List (Ground ArgumentIssue)}
    (behind : argument ≠ "" → error? (read (argument, more)) = firstFault grounds) :
    error? (required (argument :: more) >>= read) =
      firstFault (⟨argument = "", .missing⟩ :: grounds) := by
  by_cases empty : argument = ""
  · subst empty
    rfl
  · rw [firstFault_cons_of_not empty, required_cons empty, ok_bind, behind empty]

theorem error?_readRandom (argument : String) (more : List String) :
    error? (readRandom (argument :: more)) =
      firstFault (⟨argument = "", .missing⟩ :: argumentGrounds argument .random) := by
  refine error?_required_bind fun filled => ?_
  rw [argumentGrounds, firstFault_append, ← RandomCode.error?_ofBits]
  dsimp only
  rw [error?_bind_ok (readNumber_eq filled), error?_bind_pure]

theorem error?_readDate (argument : String) (more : List String) :
    error? (readDate (argument :: more)) =
      firstFault (⟨argument = "", .missing⟩ :: argumentGrounds argument .date) := by
  refine error?_required_bind fun _ => ?_
  rw [argumentGrounds, ← DatePattern.error?_ofSpelling]
  dsimp only
  rw [error?_bind_pure]

theorem error?_readSequence (argument : String) (more : List String) :
    error? (readSequence (argument :: more)) =
      firstFault (⟨argument = "", .missing⟩ :: argumentGrounds argument .sequence) := by
  refine error?_required_bind fun filled => ?_
  rw [argumentGrounds, firstFault_append, ← OrdinalWidth.error?_ofNat]
  dsimp only
  rw [error?_bind_ok (readNumber_eq filled), error?_bind_pure]

/-! ### Fields -/

theorem error?_complete {kind : Kind} {more : List String} {grounds : List (Ground ArgumentIssue)}
    {outcome : Except ArgumentIssue (Directive × List String)}
    (refused : error? outcome = firstFault grounds)
    (left : ∀ directive rest, outcome = .ok (directive, rest) → rest = more) (offset : Nat) :
    error? (complete kind offset outcome) =
      (firstFault (grounds ++ surplusGrounds more)).map (.invalidArgument kind offset) := by
  rw [firstFault_append, ← refused]
  cases outcome with
  | error issue => rfl
  | ok read =>
    obtain ⟨directive, rest⟩ := read
    obtain rfl := left directive rest rfl
    cases rest <;> rfl

theorem ofHead?_eq_lookup (head : String) : Kind.ofHead? head = heads.lookup head := by
  simp only [Kind.ofHead?, Kind.directives, List.find?, heads, List.lookup_cons, List.lookup_nil,
    Kind.head, BEq.comm (a := head)]

theorem error?_ofFields (offset : Nat) {head : String} (filled : head ≠ "")
    (arguments : List String) :
    error? (ofFields offset head arguments) = firstFault (fieldsGrounds offset head arguments) := by
  unfold ofFields fieldsGrounds
  rw [ofHead?_eq_lookup, firstFault_cons_of_not filled]
  cases known : heads.lookup head with
  | none => rfl
  | some kind =>
    dsimp only
    rw [firstFault_map]
    cases kind with
    | text =>
      rw [← ofHead?_eq_lookup] at known
      exact absurd (Kind.ofHead?_eq_some_iff.mp known).2 Bool.false_ne_true
    | guid =>
      have refused : error? (.ok (guid, arguments)) =
          firstFault ([] : List (Ground ArgumentIssue)) := rfl
      refine error?_complete refused (fun _ _ read => ?_) offset
      exact (Prod.mk.inj (Except.ok.inj read)).2.symm
    | random =>
      cases arguments with
      | nil => rfl
      | cons argument more =>
        refine error?_complete (error?_readRandom argument more) (fun _ _ read => ?_) offset
        obtain ⟨_, _, same⟩ := readRandom_eq_ok_iff.mp read
        exact (List.cons.inj same).2.symm
    | date =>
      cases arguments with
      | nil => rfl
      | cons argument more =>
        refine error?_complete (error?_readDate argument more) (fun _ _ read => ?_) offset
        obtain ⟨_, _, same⟩ := readDate_eq_ok_iff.mp read
        exact (List.cons.inj same).2.symm
    | sequence =>
      cases arguments with
      | nil => rfl
      | cons argument more =>
        refine error?_complete (error?_readSequence argument more) (fun _ _ read => ?_) offset
        rcases readSequence_eq_ok_iff.mp read with ⟨_, none, _⟩ | ⟨_, _, _, same⟩
        · cases none
        · exact (List.cons.inj same).2.symm

/-! ### Bodies -/

theorem splitOn_eq_splitFields (cs : List Char) :
    cs.splitOn ':' = (splitFields cs).1 :: (splitFields cs).2 := by
  induction cs with
  | nil => rfl
  | cons c cs ih =>
    rw [List.splitOn] at ih ⊢
    rw [List.splitOnP_cons_eq_if_modifyHead, ih]
    by_cases colon : c = ':' <;> simp [splitFields, colon]

theorem bodyGrounds_eq (offset : Nat) (body : List Char) :
    bodyGrounds offset body = fieldsGrounds offset (String.ofList (splitFields body).1)
      ((splitFields body).2.map String.ofList) := by
  unfold bodyGrounds
  rw [splitOn_eq_splitFields]
  rfl

theorem error?_ofBody (offset : Nat) (body : List Char) :
    error? (ofBody offset body) = firstFault (bodyGrounds offset body) := by
  rw [bodyGrounds_eq]
  unfold ofBody
  split
  · rename_i fields
    rw [fields]
    rfl
  · rename_i head arguments headed fields
    have filled : String.ofList head ≠ "" := by
      intro empty
      exact headed (by simpa using empty)
    rw [fields, error?_ofFields offset filled]

end Directive

theorem offset?_of_mem_grounds {offset : Nat} {rest : List Char} :
    ∀ ground ∈ Directive.grounds offset rest, ground.fault.offset? = some offset := by
  unfold Directive.grounds Directive.bodyGrounds Directive.fieldsGrounds
  simp only [List.forall_mem_cons]
  refine ⟨rfl, rfl, rfl, fun ground member => ?_⟩
  split at member
  · obtain rfl := List.mem_singleton.mp member
    rfl
  · obtain ⟨issue, -, rfl⟩ := List.mem_map.mp member
    rfl

namespace Format

/-! ### Texts -/

/-- A directive that is not closed before the next opening brace is refused where it starts. -/
theorem readPieces_unclosed {rest : List Char}
    (unclosed : '}' ∉ rest ∨ '{' ∈ rest.takeWhile (· ≠ '}')) (opened : OpenDirective)
    (position : Nat) :
    readPieces (some opened) position rest = .error (.malformedDirective opened.offset) := by
  induction rest generalizing opened position with
  | nil => rfl
  | cons c rest ih =>
    rw [readPieces]
    by_cases opening : c = '{'
    · rw [if_pos opening]
    · have later : c ≠ '}' := by
        rintro rfl
        simp at unclosed
      rw [if_neg opening, if_neg later]
      apply ih
      simpa [later, Ne.symm later, Ne.symm opening] using unclosed

theorem exists_closed {rest : List Char} (closed : '}' ∈ rest) :
    ∃ body more, rest = body ++ '}' :: more ∧ '}' ∉ body ∧ rest.takeWhile (· ≠ '}') = body := by
  obtain ⟨body, more, rfl, before⟩ := List.eq_append_cons_of_mem closed
  have inside : ∀ c ∈ body, decide (c ≠ '}') = true := by
    intro c member
    exact decide_eq_true fun same => before (same ▸ member)
  refine ⟨body, more, rfl, before, ?_⟩
  rw [List.takeWhile_append_of_pos inside, List.takeWhile_cons_of_neg (by simp), List.append_nil]

/-- A directive is not closed before the next opening brace, or it is refused for its body. -/
theorem grounds_cases (offset : Nat) (rest : List Char) :
    (('}' ∉ rest ∨ '{' ∈ rest.takeWhile (· ≠ '}')) ∧
      firstFault (Directive.grounds offset rest) = some (.malformedDirective offset)) ∨
    ∃ body more, rest = body ++ '}' :: more ∧ (∀ c ∈ body, c ≠ '{' ∧ c ≠ '}') ∧
      firstFault (Directive.grounds offset rest) = error? (Directive.ofBody offset body) := by
  unfold Directive.grounds
  by_cases closed : '}' ∈ rest
  · rw [firstFault_cons_of_not (not_not_intro closed)]
    by_cases nested : '{' ∈ rest.takeWhile (· ≠ '}')
    · exact .inl ⟨.inr nested, firstFault_cons_of nested _ _⟩
    · rw [firstFault_cons_of_not nested]
      obtain ⟨body, more, same, before, taken⟩ := exists_closed closed
      rw [taken] at nested ⊢
      refine .inr ⟨body, more, same, ?_, (Directive.error?_ofBody offset body).symm⟩
      exact fun c member =>
        ⟨fun brace => nested (brace ▸ member), fun brace => before (brace ▸ member)⟩
  · exact .inl ⟨.inl closed, firstFault_cons_of closed _ _⟩

theorem readPieces_of_fault {position : Nat} {rest : List Char} {e : FormatError}
    (fault : firstFault (Directive.grounds position rest) = some e) :
    readPieces none position ('{' :: rest) = .error e := by
  have start : readPieces none position ('{' :: rest) =
      readPieces (some ⟨position, []⟩) (position + '{'.utf8Size) rest := if_pos rfl
  rw [start]
  rcases grounds_cases position rest with ⟨unclosed, malformed⟩ | ⟨body, more, same, plain, refused⟩
  · rw [malformed] at fault
    obtain rfl := Option.some.inj fault
    exact readPieces_unclosed unclosed _ _
  · rw [refused, error?_eq_some_iff] at fault
    rw [same, readPieces_opened plain, List.reverse_nil, List.nil_append, fault, error_bind]

theorem exists_directive_of_no_fault {offset : Nat} {rest : List Char}
    (sound : firstFault (Directive.grounds offset rest) = none) :
    ∃ directive more, '{' :: rest = Piece.chars (.directive directive) ++ more ∧
      directive.InRange := by
  rcases grounds_cases offset rest with ⟨unclosed, malformed⟩ | ⟨body, more, same, plain, refused⟩
  · rw [malformed] at sound
    cases sound
  · rw [refused, error?_eq_none_iff] at sound
    obtain ⟨directive, read⟩ := sound
    obtain ⟨rfl, range⟩ := Directive.ofBody_eq_ok_iff.mp read
    refine ⟨directive, more, ?_, range⟩
    rw [same, Piece.chars_directive, List.cons_append, List.append_assoc, List.singleton_append]

/-- The text at byte `position` is read to its end, or up to a directive that is refused. -/
def ReadOrRefused (position : Nat) (cs : List Char) : Prop :=
  ∃ pieces : List Piece, (∀ piece ∈ pieces, piece.Writable) ∧
    (cs = pieces.flatMap Piece.chars ∨
      ∃ rest e, cs = pieces.flatMap Piece.chars ++ '{' :: rest ∧
        firstFault (Directive.grounds
          (position + String.utf8Len (pieces.flatMap Piece.chars)) rest) = some e)

theorem ReadOrRefused.cons {piece : Piece} {position : Nat} {cs : List Char}
    (first : piece.Writable)
    (behind : ReadOrRefused (position + String.utf8Len piece.chars) cs) :
    ReadOrRefused position (piece.chars ++ cs) := by
  obtain ⟨pieces, writable, outcome⟩ := behind
  refine ⟨piece :: pieces, List.forall_mem_cons.mpr ⟨first, writable⟩, ?_⟩
  rw [List.flatMap_cons, String.utf8Len_append, ← Nat.add_assoc]
  rcases outcome with same | ⟨rest, e, same, fault⟩
  · exact .inl (by rw [same])
  · exact .inr ⟨rest, e, by rw [same, List.append_assoc], fault⟩

theorem readOrRefused (position : Nat) (cs : List Char) : ReadOrRefused position cs := by
  -- By the length of the text, since a directive is read as a whole.
  induction size : cs.length using Nat.strong_induction_on generalizing cs position with
  | _ n ih =>
    subst size
    cases cs with
    | nil => exact ⟨[], by simp, .inl rfl⟩
    | cons c cs =>
      by_cases opening : c = '{'
      · subst opening
        cases fault : firstFault (Directive.grounds position cs) with
        | some e => exact ⟨[], by simp, .inr ⟨cs, e, rfl, fault⟩⟩
        | none =>
          obtain ⟨directive, more, same, range⟩ := exists_directive_of_no_fault fault
          have shorter : more.length < ('{' :: cs).length := by
            rw [same, Piece.chars_directive, List.length_append, List.length_cons]
            omega
          rw [same]
          exact .cons range (ih _ shorter _ _ rfl)
      · have first : Piece.Writable (.char c) := opening
        exact .cons first (ih _ (Nat.lt_succ_self _) _ _ rfl)

/-- Behind a front that is read, a directive that is refused is reported. -/
theorem parse_of_fault {front rest : String} {format : Format} {e : FormatError}
    (read : parse front = .ok format)
    (fault : firstFault (Directive.grounds front.utf8ByteSize rest.toList) = some e) :
    parse (front ++ "\x7b" ++ rest) = .error e := by
  obtain ⟨same, writable⟩ := cut_iff.mp (parse_eq_ok_iff_cut.mp read).1
  have offset : front.utf8ByteSize = String.utf8Len (format.pieces.flatMap Piece.chars) := by
    rw [← same, String.utf8Len_toList]
  have text : (front ++ "\x7b" ++ rest).toList =
      format.pieces.flatMap Piece.chars ++ '{' :: rest.toList := by
    rw [← same]
    simp
  rw [parse, text, readPieces_append writable, Nat.zero_add, ← offset, readPieces_of_fault fault]
  rfl

/-- A fault of a text is one of a directive in it. -/
theorem exists_ground_of_parse_error {text : String} {e : FormatError}
    (refused : parse text = .error e) :
    ∃ offset rest, ∃ ground ∈ Directive.grounds offset rest, ground.fault = e := by
  obtain ⟨pieces, writable, same | ⟨rest, fault, same, first⟩⟩ := readOrRefused 0 text.toList
  · rw [parse, readPieces_eq_ok_iff.mpr ⟨same, writable⟩] at refused
    cases refused
  · rw [parse, same, readPieces_append writable, readPieces_of_fault first] at refused
    cases refused
    exact ⟨_, rest, mem_of_firstFault first⟩

theorem isSome_offset?_of_parse_error {text : String} {e : FormatError}
    (refused : parse text = .error e) : e.offset?.isSome := by
  obtain ⟨offset, rest, ground, member, rfl⟩ := exists_ground_of_parse_error refused
  rw [offset?_of_mem_grounds ground member]
  rfl

/-- A text is refused exactly if it is a front that is read, an opening brace, and a rest for
which the directive at that brace is refused; the first ground that applies is reported, at the
byte of the brace. -/
theorem parse_eq_error_iff (text : String) (e : FormatError) :
    parse text = .error e ↔
      ∃ front rest : String, text = front ++ "\x7b" ++ rest ∧ (∃ format, parse front = .ok format) ∧
        e.offset? = some front.utf8ByteSize ∧
        firstFault (Directive.grounds front.utf8ByteSize rest.toList) = some e := by
  constructor
  · intro refused
    obtain ⟨pieces, writable, same | ⟨rest, fault, same, first⟩⟩ := readOrRefused 0 text.toList
    · obtain ⟨format, read⟩ := exists_parse_of_cut (cut_iff.mpr ⟨same, writable⟩)
      rw [read] at refused
      cases refused
    · have front : (String.ofList (pieces.flatMap Piece.chars)).toList =
          pieces.flatMap Piece.chars := String.toList_ofList
      obtain ⟨format, read⟩ := exists_parse_of_cut (cut_iff.mpr ⟨front, writable⟩)
      have whole : text =
          String.ofList (pieces.flatMap Piece.chars) ++ "\x7b" ++ String.ofList rest := by
        rw [← String.toList_inj, same]
        simp
      rw [Nat.zero_add, ← String.utf8ByteSize_ofList, ← String.toList_ofList (l := rest)] at first
      have reported := parse_of_fault read first
      rw [← whole, refused] at reported
      obtain rfl := Except.error.inj reported
      obtain ⟨ground, member, rfl⟩ := mem_of_firstFault first
      exact ⟨_, _, whole, ⟨format, read⟩, offset?_of_mem_grounds ground member, first⟩
  · rintro ⟨front, rest, rfl, ⟨format, read⟩, -, fault⟩
    exact parse_of_fault read fault

theorem parse_eq_error_iff_two_faults :
    parse "ü\x7bSEQ:021:\x7d" =
        .error (.invalidArgument .sequence 2 (.leadingZero "021")) ∧
      parse "\x7bGUID\x7d\x7bRANDOM:99999999999:\x7b" = .error (.malformedDirective 6) ∧
      parse "\x7bGUID\x7d\x7bRANDOM:99999999999:\x7d" =
        .error (.invalidArgument .random 6 (.unsupportedBits 4294967295)) := by
  refine ⟨(parse_eq_error_iff _ _).mpr ⟨"ü", "SEQ:021:\x7d", rfl, ⟨_, rfl⟩, rfl, by decide⟩,
    (parse_eq_error_iff _ _).mpr ⟨"\x7bGUID\x7d", "RANDOM:99999999999:\x7b", rfl, ⟨_, rfl⟩, rfl,
      by decide⟩,
    (parse_eq_error_iff _ _).mpr ⟨"\x7bGUID\x7d", "RANDOM:99999999999:\x7d", rfl, ⟨_, rfl⟩, rfl,
      by decide⟩⟩

end Format
end InventoryIds
