import InventoryIds.Directive
import InventoryIds.Proofs.Numerals
import InventoryIds.Proofs.Outcomes

/-!
# Spellings of directives

Every directive has one spelling. `ofBody_eq_ok_iff` says that the text between two braces is read
as a directive exactly if it is the spelling of that directive and the width of an ordinal, if
there is one, lies in range.
-/

namespace InventoryIds

def OrdinalWidth.InRange : OrdinalWidth → Prop
  | standard => True
  | explicit digits => 1 ≤ digits.toNat ∧ digits.toNat ≤ maxDigits

instance (width : OrdinalWidth) : Decidable width.InRange :=
  match width with
  | .standard => isTrue trivial
  | .explicit _ => inferInstanceAs (Decidable (_ ∧ _))

theorem OrdinalWidth.ofNat_eq_ok_iff {n : Nat} {width : OrdinalWidth} :
    ofNat n = .ok width ↔ width.explicit? = some n ∧ width.InRange := by
  unfold ofNat
  constructor
  · intro read
    split at read
    · rename_i range
      obtain rfl := Except.ok.inj read
      have small : n < 256 := by simp only [maxDigits] at range; omega
      have value : (UInt8.ofNat n).toNat = n := UInt8.toNat_ofNat_of_lt small
      exact ⟨by rw [explicit?, value], by rw [InRange, value]; exact range⟩
    · cases read
  · rintro ⟨written, range⟩
    cases width with
    | standard => cases written
    | explicit digits =>
      obtain rfl := Option.some.inj written
      exact (if_pos range).trans (by rw [UInt8.ofNat_toNat])

theorem OrdinalWidth.ofNat_of_not_inRange {digits : UInt8} (out : ¬(explicit digits).InRange) :
    ofNat digits.toNat = .error (.widthOutOfRange digits.toNat) :=
  if_neg out

theorem RandomCode.ofBits_eq_ok_iff {bits : Nat} {code : RandomCode} :
    ofBits bits = .ok code ↔ bits = code.bits := by
  constructor
  · intro read
    unfold ofBits at read
    split at read
    · rename_i found
      obtain rfl := Except.ok.inj read
      have same := List.find?_some found
      exact (beq_iff_eq.mp same).symm
    · cases read
  · rintro rfl
    exact ofBits_bits code

theorem DatePattern.ofSpelling_eq_ok_iff {text : String} {pattern : DatePattern} :
    ofSpelling text = .ok pattern ↔ text = pattern.spelling := by
  constructor
  · intro read
    unfold ofSpelling at read
    split at read
    · rename_i found
      obtain rfl := Except.ok.inj read
      have same := List.find?_some found
      exact (beq_iff_eq.mp same).symm
    · cases read
  · rintro rfl
    exact ofSpelling_spelling pattern

theorem Kind.ofHead?_eq_some_iff {word : String} {kind : Kind} :
    ofHead? word = some kind ↔ word = kind.head ∧ kind.isDirective := by
  constructor
  · intro found
    have same := List.find?_some found
    have member := List.mem_of_find?_eq_some found
    refine ⟨(beq_iff_eq.mp same).symm, ?_⟩
    cases kind with
    | text => simp [directives] at member
    | _ => rfl
  · rintro ⟨rfl, directive⟩
    exact ofHead?_head directive

namespace Directive

/-- A directive that can be written in a format text. -/
def InRange : Directive → Prop
  | sequence width => width.InRange
  | _ => True

instance (directive : Directive) : Decidable directive.InRange :=
  match directive with
  | .sequence width => inferInstanceAs (Decidable width.InRange)
  | .random _ | .guid | .date _ => isTrue trivial

/-! ### Arguments -/

theorem largestArgument_eq : largestArgument = 4294967295 := rfl

/-- The numbers that are read are the shortest decimals; beyond the largest argument they all
mean the largest. -/
theorem readNumber_eq_ok_iff {argument : String} {n : Nat} :
    readNumber argument = .ok n ↔ ∃ m : Nat, argument = m.repr ∧ n = min m largestArgument := by
  constructor
  · intro read
    unfold readNumber at read
    split at read
    · cases read
    · rename_i c cs text
      split at read
      · cases read
      split at read
      · cases read
      rename_i digits shortest
      have digits : ∀ d ∈ c :: cs, d.isDigit := by simpa using digits
      have shortest : c = '0' → cs = [] := by simpa using shortest
      refine ⟨_, ?_, (Except.ok.inj read).symm⟩
      rw [← String.toList_inj, Nat.toList_repr, text, Numeral.toDigits_ofDigitChars digits shortest]
  · rintro ⟨m, rfl, rfl⟩
    unfold readNumber
    split
    · rename_i text
      exact absurd text (by simp)
    · rename_i c cs text
      -- The text of a number is made of digits, and leads with a zero for zero only.
      rw [Nat.toList_repr] at text
      have digits : (c :: cs).all Char.isDigit := by
        rw [← text, List.all_eq_true]
        exact fun d member => Nat.isDigit_of_mem_toDigits (by decide) (by decide) member
      have shortest : ¬(c = '0' ∧ cs ≠ []) := by
        rintro ⟨rfl, more⟩
        exact more (Numeral.eq_nil_of_toDigits_eq_zero_cons text)
      rw [digits, Bool.not_true, if_neg Bool.false_ne_true, if_neg shortest, ← text,
        Nat.ofDigitChars_ten_toDigits]

theorem required_eq_ok_iff {arguments rest : List String} {argument : String} :
    required arguments = .ok (argument, rest) ↔ arguments = argument :: rest ∧ argument ≠ "" := by
  constructor
  · intro read
    unfold required at read
    split at read
    · cases read
    · cases read
    · rename_i argument rest nonempty
      obtain ⟨rfl, rfl⟩ := Prod.mk.inj (Except.ok.inj read)
      exact ⟨rfl, fun empty => nonempty (by rw [empty])⟩
  · rintro ⟨rfl, nonempty⟩
    unfold required
    split
    · contradiction
    · rename_i empty
      exact absurd (List.cons.inj empty).1 nonempty
    · rename_i same
      obtain ⟨rfl, rfl⟩ := List.cons.inj same
      rfl

theorem readRandom_eq_ok_iff {arguments rest : List String} {directive : Directive} :
    readRandom arguments = .ok (directive, rest) ↔
      ∃ code : RandomCode, directive = random code ∧ arguments = code.bits.repr :: rest := by
  simp only [readRandom, bind_eq_ok_iff, Prod.exists, required_eq_ok_iff, readNumber_eq_ok_iff,
    RandomCode.ofBits_eq_ok_iff, pure_eq_ok_iff]
  constructor
  · rintro ⟨argument, rest, ⟨rfl, -⟩, bits, ⟨m, rfl, value⟩, code, rfl, same⟩
    obtain ⟨rfl, rfl⟩ := Prod.mk.inj same
    have small : code.bits < largestArgument := by cases code <;> decide
    exact ⟨code, rfl, by rw [show m = code.bits by omega]⟩
  · rintro ⟨code, rfl, rfl⟩
    exact ⟨_, _, ⟨rfl, by simp⟩, _, ⟨_, rfl, by cases code <;> rfl⟩, _, rfl, rfl⟩

theorem readDate_eq_ok_iff {arguments rest : List String} {directive : Directive} :
    readDate arguments = .ok (directive, rest) ↔
      ∃ pattern : DatePattern, directive = date pattern ∧ arguments = pattern.spelling :: rest := by
  simp only [readDate, bind_eq_ok_iff, Prod.exists, required_eq_ok_iff,
    DatePattern.ofSpelling_eq_ok_iff, pure_eq_ok_iff]
  constructor
  · rintro ⟨argument, rest, ⟨rfl, -⟩, pattern, rfl, same⟩
    obtain ⟨rfl, rfl⟩ := Prod.mk.inj same
    exact ⟨pattern, rfl, rfl⟩
  · rintro ⟨pattern, rfl, rfl⟩
    exact ⟨_, _, ⟨rfl, by cases pattern <;> decide⟩, _, rfl, rfl⟩

theorem readSequence_eq_ok_iff {arguments rest : List String} {directive : Directive} :
    readSequence arguments = .ok (directive, rest) ↔
      (directive = sequence .standard ∧ arguments = [] ∧ rest = []) ∨
      ∃ digits, directive = sequence (.explicit digits) ∧ (OrdinalWidth.explicit digits).InRange ∧
        arguments = digits.toNat.repr :: rest := by
  cases arguments with
  | nil =>
    simp only [readSequence, Except.ok.injEq, Prod.mk.injEq]
    constructor
    · rintro ⟨rfl, rfl⟩
      exact .inl ⟨rfl, trivial, rfl⟩
    · rintro (⟨rfl, -, rfl⟩ | ⟨_, _, _, impossible⟩)
      · exact ⟨rfl, rfl⟩
      · cases impossible
  | cons first more =>
    simp only [readSequence, bind_eq_ok_iff, Prod.exists, required_eq_ok_iff, readNumber_eq_ok_iff,
      OrdinalWidth.ofNat_eq_ok_iff, pure_eq_ok_iff]
    constructor
    · rintro ⟨argument, rest, ⟨same, -⟩, n, ⟨m, rfl, value⟩, width, ⟨written, range⟩, result⟩
      obtain ⟨rfl, rfl⟩ := Prod.mk.inj result
      cases width with
      | standard => cases written
      | explicit digits =>
        have exact : digits.toNat = n := Option.some.inj written
        have bound := digits.toNat_lt
        have large := largestArgument_eq
        exact .inr ⟨digits, rfl, range, by rw [same, show m = digits.toNat by omega]⟩
    · rintro (⟨_, impossible, _⟩ | ⟨digits, rfl, range, same⟩)
      · cases impossible
      · have bound := digits.toNat_lt
        have large := largestArgument_eq
        exact ⟨_, _, ⟨same, by simp⟩, digits.toNat, ⟨_, rfl, by omega⟩, _, ⟨rfl, range⟩, rfl⟩

/-! ### Fields -/

theorem complete_eq_ok_iff {kind : Kind} {offset : Nat} {directive : Directive}
    {outcome : Except ArgumentIssue (Directive × List String)} :
    complete kind offset outcome = .ok directive ↔ outcome = .ok (directive, []) := by
  unfold complete
  split <;> simp

theorem ofFields_eq_ok_iff {offset : Nat} {head : String} {arguments : List String}
    {directive : Directive} :
    ofFields offset head arguments = .ok directive ↔
      head = directive.kind.head ∧ arguments = directive.argument?.toList ∧ directive.InRange := by
  constructor
  · intro read
    unfold ofFields at read
    split at read
    · rename_i found
      obtain ⟨code, rfl, rfl⟩ := readRandom_eq_ok_iff.mp (complete_eq_ok_iff.mp read)
      exact ⟨(Kind.ofHead?_eq_some_iff.mp found).1, rfl, trivial⟩
    · rename_i found
      obtain ⟨rfl, rfl⟩ := Prod.mk.inj (Except.ok.inj (complete_eq_ok_iff.mp read))
      exact ⟨(Kind.ofHead?_eq_some_iff.mp found).1, rfl, trivial⟩
    · rename_i found
      obtain ⟨pattern, rfl, rfl⟩ := readDate_eq_ok_iff.mp (complete_eq_ok_iff.mp read)
      exact ⟨(Kind.ofHead?_eq_some_iff.mp found).1, rfl, trivial⟩
    · rename_i found
      have head := (Kind.ofHead?_eq_some_iff.mp found).1
      rcases readSequence_eq_ok_iff.mp (complete_eq_ok_iff.mp read) with
        ⟨rfl, rfl, -⟩ | ⟨digits, rfl, range, rfl⟩
      · exact ⟨head, rfl, trivial⟩
      · exact ⟨head, rfl, range⟩
    · cases read
    · cases read
  · rintro ⟨rfl, rfl, range⟩
    unfold ofFields
    rw [Kind.ofHead?_head (by cases directive <;> rfl)]
    cases directive with
    | random code =>
      exact complete_eq_ok_iff.mpr (readRandom_eq_ok_iff.mpr ⟨code, rfl, rfl⟩)
    | guid => rfl
    | date pattern =>
      exact complete_eq_ok_iff.mpr (readDate_eq_ok_iff.mpr ⟨pattern, rfl, rfl⟩)
    | sequence width =>
      apply complete_eq_ok_iff.mpr
      apply readSequence_eq_ok_iff.mpr
      cases width with
      | standard => exact .inl ⟨rfl, rfl, rfl⟩
      | explicit digits => exact .inr ⟨digits, rfl, range, rfl⟩

theorem ofFields_of_not_inRange {offset : Nat} {digits : UInt8}
    (out : ¬(OrdinalWidth.explicit digits).InRange) :
    ofFields offset Kind.sequence.head [digits.toNat.repr] =
      .error (.invalidArgument .sequence offset (.widthOutOfRange digits.toNat)) := by
  have bound := digits.toNat_lt
  have large := largestArgument_eq
  have required : required [digits.toNat.repr] = .ok (digits.toNat.repr, []) :=
    required_eq_ok_iff.mpr ⟨rfl, by simp⟩
  have number : readNumber digits.toNat.repr = .ok digits.toNat :=
    readNumber_eq_ok_iff.mpr ⟨_, rfl, by omega⟩
  unfold ofFields
  rw [Kind.ofHead?_head rfl]
  simp only [readSequence, required, number, ok_bind, OrdinalWidth.ofNat_of_not_inRange out,
    error_bind, complete]

/-! ### The text between the braces -/

def joinFields (head : List Char) (arguments : List (List Char)) : List Char :=
  head ++ arguments.flatMap (':' :: ·)

theorem joinFields_splitFields (cs : List Char) :
    joinFields (splitFields cs).1 (splitFields cs).2 = cs := by
  induction cs with
  | nil => rfl
  | cons c cs ih =>
    unfold joinFields at ih
    by_cases colon : c = ':'
    · simp [splitFields, joinFields, colon, ih]
    · simp [splitFields, joinFields, colon, ih]

theorem splitFields_append {field : List Char} (plain : ':' ∉ field) (rest : List Char) :
    splitFields (field ++ rest) = (field ++ (splitFields rest).1, (splitFields rest).2) := by
  induction field with
  | nil => rfl
  | cons c field ih =>
    have other : c ≠ ':' := fun same => plain (same ▸ List.mem_cons_self)
    have plain : ':' ∉ field := fun member => plain (List.mem_cons_of_mem _ member)
    simp [splitFields, other, ih plain]

theorem splitFields_flatMap {arguments : List (List Char)}
    (plain : ∀ field ∈ arguments, ':' ∉ field) :
    splitFields (arguments.flatMap (':' :: ·)) = ([], arguments) := by
  induction arguments with
  | nil => rfl
  | cons field arguments ih =>
    have rest := ih fun field member => plain field (List.mem_cons_of_mem _ member)
    simp [splitFields, splitFields_append (plain _ List.mem_cons_self), rest]

theorem splitFields_joinFields {head : List Char} {arguments : List (List Char)}
    (plain : ':' ∉ head) (plains : ∀ field ∈ arguments, ':' ∉ field) :
    splitFields (joinFields head arguments) = (head, arguments) := by
  rw [joinFields, splitFields_append plain, splitFields_flatMap plains, List.append_nil]

def marks : List Char := [':', '{', '}']

theorem not_mem_marks_of_isDigit {c : Char} (digit : c.isDigit) : c ∉ marks := by
  intro mark
  simp only [marks, List.mem_cons, List.not_mem_nil, or_false] at mark
  rcases mark with rfl | rfl | rfl <;> exact absurd digit (by decide)

theorem not_mem_marks_of_mem_repr (n : Nat) : ∀ c ∈ n.repr.toList, c ∉ marks := by
  intro c member
  rw [Nat.toList_repr] at member
  exact not_mem_marks_of_isDigit (Nat.isDigit_of_mem_toDigits (by decide) (by decide) member)

theorem not_mem_marks_of_mem_argument? {directive : Directive} {argument : String}
    (written : argument ∈ directive.argument?) : ∀ c ∈ argument.toList, c ∉ marks := by
  cases directive with
  | random code =>
    obtain rfl := Option.some.inj written
    exact not_mem_marks_of_mem_repr code.bits
  | guid => cases written
  | date pattern =>
    obtain rfl := Option.some.inj written
    cases pattern <;> simp [DatePattern.spelling, marks]
  | sequence width =>
    cases width with
    | standard => cases written
    | explicit digits =>
      obtain rfl := Option.some.inj written
      exact not_mem_marks_of_mem_repr digits.toNat

theorem not_mem_marks_of_mem_head (kind : Kind) : ∀ c ∈ kind.head.toList, c ∉ marks := by
  cases kind <;> simp [Kind.head, marks]

def body (directive : Directive) : List Char :=
  joinFields directive.kind.head.toList (directive.argument?.toList.map String.toList)

theorem toList_canonical (directive : Directive) :
    directive.canonical.toList = '{' :: (directive.body ++ ['}']) := by
  cases written : directive.argument? with
  | none => simp [canonical, body, joinFields, written]
  | some argument => simp [canonical, body, joinFields, written]

theorem splitFields_body (directive : Directive) :
    splitFields directive.body =
      (directive.kind.head.toList, directive.argument?.toList.map String.toList) := by
  apply splitFields_joinFields
  · exact fun colon => not_mem_marks_of_mem_head _ _ colon (by decide)
  · intro field member colon
    obtain ⟨argument, written, rfl⟩ := List.mem_map.mp member
    exact not_mem_marks_of_mem_argument? (Option.mem_toList.mp written) _ colon (by decide)

theorem brace_not_mem_body {directive : Directive} {c : Char} (member : c ∈ directive.body) :
    c ≠ '{' ∧ c ≠ '}' := by
  suffices plain : c = ':' ∨ c ∉ marks by
    constructor <;> rintro rfl <;> exact absurd plain (by decide)
  simp only [body, joinFields, List.mem_append, List.mem_flatMap, List.mem_map] at member
  rcases member with head | ⟨_, ⟨argument, written, rfl⟩, member⟩
  · exact .inr (not_mem_marks_of_mem_head _ c head)
  · rcases List.mem_cons.mp member with colon | member
    · exact .inl colon
    · exact .inr (not_mem_marks_of_mem_argument? (Option.mem_toList.mp written) c member)

theorem ofBody_body (offset : Nat) (directive : Directive) :
    ofBody offset directive.body =
      ofFields offset directive.kind.head directive.argument?.toList := by
  have headed : directive.kind.head.toList ≠ [] := by cases directive.kind <;> decide
  unfold ofBody
  rw [splitFields_body]
  split
  · rename_i empty
    exact absurd (Prod.mk.inj empty).1 headed
  · rename_i fields
    obtain ⟨rfl, rfl⟩ := Prod.mk.inj fields
    simp [List.map_map, Function.comp_def]

/-- The text between two braces is read as a directive exactly if it is its spelling. -/
theorem ofBody_eq_ok_iff {offset : Nat} {cs : List Char} {directive : Directive} :
    ofBody offset cs = .ok directive ↔ cs = directive.body ∧ directive.InRange := by
  constructor
  · intro read
    unfold ofBody at read
    split at read
    · cases read
    · rename_i head arguments _ fields
      obtain ⟨headSame, argumentsSame, range⟩ := ofFields_eq_ok_iff.mp read
      refine ⟨?_, range⟩
      have plain : arguments = directive.argument?.toList.map String.toList := by
        rw [← argumentsSame, List.map_map]
        simp [Function.comp_def]
      rw [body, ← headSame, ← plain, String.toList_ofList]
      have joined := joinFields_splitFields cs
      rw [fields] at joined
      exact joined.symm
  · rintro ⟨rfl, range⟩
    rw [ofBody_body]
    exact ofFields_eq_ok_iff.mpr ⟨rfl, rfl, range⟩

theorem ofBody_of_not_inRange {offset : Nat} {digits : UInt8}
    (out : ¬(OrdinalWidth.explicit digits).InRange) :
    ofBody offset (sequence (.explicit digits)).body =
      .error (.invalidArgument .sequence offset (.widthOutOfRange digits.toNat)) := by
  rw [ofBody_body]
  exact ofFields_of_not_inRange out

end Directive
end InventoryIds
