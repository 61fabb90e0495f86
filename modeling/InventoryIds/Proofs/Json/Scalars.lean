import InventoryIds.Json.Value
import InventoryIds.Proofs.Numerals
import InventoryIds.Proofs.Outcomes

/-!
# Scalars read back

A string, a word and null are read back from what is written for them. `Reads` says of a reader
that it takes the text of a value off the front, whatever text follows that can stand behind a
value.
-/

namespace InventoryIds

namespace Reader
variable {α β : Type}

theorem bind_apply (reader : Reader α) (next : α → Reader β) (text : List Char) :
    (reader >>= next) text = (reader text >>= fun result => next result.1 result.2) := rfl

theorem bind_of_ok {reader : Reader α} {text rest : List Char} {value : α}
    (read : reader text = .ok (value, rest)) (next : α → Reader β) :
    (reader >>= next) text = next value rest := by
  rw [bind_apply, read, ok_bind]

theorem peek_cons {c : Char} (visible : isBlank c = false) (text : List Char) :
    peek (c :: text) = .ok (some c, c :: text) := by
  have kept : skipBlanks (c :: text) = c :: text := List.dropWhile_cons_of_neg (by simp [visible])
  rw [peek, kept]
  rfl

/-- The text begins with a character with which a value can begin. -/
def Opens (text : List Char) : Prop := ∃ c ∈ text.head?, isBlank c = false ∧ c ≠ ']'

/-- A value can end in front of this text. -/
def Ends (text : List Char) : Prop := ∀ c ∈ text.head?, c = ',' ∨ c = ']' ∨ c = '}'

theorem ends_nil : Ends [] := nofun

theorem ends_cons {c : Char} (ending : c = ',' ∨ c = ']' ∨ c = '}') (text : List Char) :
    Ends (c :: text) := by
  rintro _ ⟨⟩
  exact ending

/-- The reader takes these characters off the front of a text, and reads this value. -/
structure Reads (reader : Reader α) (chars : List Char) (value : α) : Prop where
  opens : Opens chars
  reads : ∀ rest, Ends rest → reader (chars ++ rest) = .ok (value, rest)

theorem readAll_of_reads {reader : Reader α} {chars : List Char} {value : α}
    (reads : Reads reader chars value) : readAll reader (String.ofList chars) = .ok value := by
  have read := reads.reads [] ends_nil
  rw [List.append_nil] at read
  rw [readAll, String.toList_ofList, bind_of_ok read]
  rfl

theorem Reads.andThen {reader : Reader α} {chars : List Char} {value : α} {result : β}
    {next : α → Reader β} (reads : Reads reader chars value)
    (made : ∀ rest, next value rest = .ok (result, rest)) :
    Reads (reader >>= next) chars result where
  opens := reads.opens
  reads rest ends := by rw [bind_of_ok (reads.reads rest ends), made]

/-! ### Strings -/

theorem hexValue?_digitChar {d : Nat} (small : d < 16) : hexValue? (Nat.digitChar d) = some d := by
  have all : ∀ d : Fin 16, hexValue? (Nat.digitChar d) = some d.val := by decide
  exact all ⟨d, small⟩

theorem stringChars_unit {high : Option Nat} {value left d : Nat} (small : d < 16)
    (rest : List Char) :
    stringChars false (.unit high value (left + 2)) (Nat.digitChar d :: rest) =
      stringChars false (.unit high (16 * value + d) (left + 1)) rest := by
  rw [stringChars, hexValue?_digitChar small]
  rfl

theorem hasUnit_of_length {text : List Char} (long : 4 ≤ text.length) : hasUnit text := by
  match text, long with
  | a :: b :: c :: d :: rest, _ =>
    have a := a.utf8Size_pos
    have b := b.utf8Size_pos
    have c := c.utf8Size_pos
    have d := d.utf8Size_pos
    simp only [hasUnit, bytesPerUnit, List.take_succ_cons, List.take_zero, List.map_cons,
      List.map_nil, List.foldr_cons, List.foldr_nil, decide_eq_true_eq]
    omega

theorem digits_unit (n : Nat) :
    Numeral.digits 16 4 n = [n / 16 / 16 / 16 % 16, n / 16 / 16 % 16, n / 16 % 16, n % 16] := rfl

theorem unitStep_control {c : Char} (control : c.toNat < 0x20) :
    unitStep false none c.toNat = .ok (some c, .text) := by
  have low : isLowSurrogate c.toNat = false := by
    simp only [isLowSurrogate, Bool.and_eq_false_iff, decide_eq_false_iff_not]
    omega
  have high : isHighSurrogate c.toNat = false := by
    simp only [isHighSurrogate, Bool.and_eq_false_iff, decide_eq_false_iff_not]
    omega
  simp only [unitStep, low, high, Bool.false_eq_true, if_false, Char.ofNat_toNat]

theorem stringChars_control {c : Char} (control : c.toNat < 0x20) (rest : List Char) :
    stringChars false .escape ('u' :: ((Numeral.digits 16 4 c.toNat).map Nat.digitChar ++ rest)) =
      (stringChars false .text rest >>= fun result => .ok (c :: result.1, result.2)) := by
  have unit : hasUnit ((Numeral.digits 16 4 c.toNat).map Nat.digitChar ++ rest) :=
    hasUnit_of_length (by simp)
  have small (n : Nat) : n % 16 < 16 := Nat.mod_lt n (by decide)
  have value : 16 * (16 * (16 * (16 * 0 + c.toNat / 16 / 16 / 16 % 16) +
      c.toNat / 16 / 16 % 16) + c.toNat / 16 % 16) + c.toNat % 16 = c.toNat := by omega
  rw [stringChars, if_pos rfl, if_pos unit, digits_unit]
  simp only [List.map_cons, List.map_nil, List.cons_append, List.nil_append, bytesPerUnit]
  rw [stringChars_unit (small _), stringChars_unit (small _), stringChars_unit (small _),
    stringChars, hexValue?_digitChar (small _)]
  simp only [value, if_true, unitStep_control control, ok_bind]
  rfl

theorem stringChars_short {c letter : Char} (other : letter ≠ 'u')
    (short : shortEscape? letter = some c) (rest : List Char) :
    stringChars false .text ('\\' :: letter :: rest) =
      (stringChars false .text rest >>= fun result => .ok (c :: result.1, result.2)) := by
  rw [stringChars, if_neg (by decide), if_pos rfl, stringChars, if_neg other, short]
  rfl

/-- A character is read back from what is written for it in a string. -/
theorem stringChars_escape (c : Char) (rest : List Char) :
    stringChars false .text (Json.escape c ++ rest) =
      (stringChars false .text rest >>= fun result => .ok (c :: result.1, result.2)) := by
  -- Seven characters have a letter of their own; of the others, only controls are not written
  -- as they are.
  unfold Json.escape
  repeat' split
  any_goals (subst c; exact stringChars_short (by decide) rfl rest)
  case _ control =>
    rw [List.append_assoc, List.cons_append, stringChars, if_neg (by decide), if_pos rfl]
    exact stringChars_control control rest
  case _ quote backslash _ _ _ _ _ printable =>
    rw [List.singleton_append, stringChars, if_neg quote, if_neg backslash, if_neg printable]
    rfl

theorem stringChars_quote (cs rest : List Char) :
    stringChars false .text (cs.flatMap Json.escape ++ '"' :: rest) = .ok (cs, rest) := by
  induction cs with
  | nil => rfl
  | cons c cs ih => rw [List.flatMap_cons, List.append_assoc, stringChars_escape, ih, ok_bind]

theorem string_quote (s : String) (rest : List Char) :
    string false (s.toList.flatMap Json.escape ++ '"' :: rest) = .ok (s, rest) := by
  rw [string, bind_of_ok (stringChars_quote s.toList rest), String.ofList_toList]
  rfl

theorem quote_append (s : String) (rest : List Char) :
    Json.quote s ++ rest = '"' :: (s.toList.flatMap Json.escape ++ '"' :: rest) := by
  simp [Json.quote]

/-! ### Words -/

theorem takeWhile_digits {ds rest : List Char} (digits : ∀ d ∈ ds, d.isDigit) (ends : Ends rest) :
    (ds ++ rest).takeWhile Char.isDigit = ds ∧ (ds ++ rest).dropWhile Char.isDigit = rest := by
  have stop : rest.takeWhile Char.isDigit = [] ∧ rest.dropWhile Char.isDigit = rest := by
    cases rest with
    | nil => exact ⟨rfl, rfl⟩
    | cons c rest =>
      have mark : c.isDigit = false := by
        rcases ends c rfl with rfl | rfl | rfl <;> rfl
      simp [mark]
  rw [List.takeWhile_append_of_pos digits, List.dropWhile_append_of_pos digits, stop.1, stop.2,
    List.append_nil]
  exact ⟨rfl, rfl⟩

theorem digits_append {d : Char} {ds rest : List Char} (all : ∀ c ∈ d :: ds, c.isDigit)
    (ends : Ends rest) : digits (d :: ds ++ rest) = .ok (d :: ds, rest) := by
  obtain ⟨taken, dropped⟩ := takeWhile_digits all ends
  unfold digits
  rw [taken, dropped]

theorem wholeDigits_append {d : Char} {ds rest : List Char} (all : ∀ c ∈ d :: ds, c.isDigit)
    (shortest : d = '0' → ds = []) (ends : Ends rest) :
    wholeDigits (d :: ds ++ rest) = .ok (d :: ds, rest) := by
  have nonzero : ∀ e es, d :: ds ≠ '0' :: e :: es := by
    intro e es same
    obtain ⟨zero, more⟩ := List.cons.inj same
    exact List.cons_ne_nil e es (more.symm.trans (shortest zero))
  rw [wholeDigits, bind_of_ok (digits_append all ends)]
  simp only
  rfl

theorem optional_of_ne {c d : Char} (other : d ≠ c) (rest : List Char) :
    optional c (d :: rest) = .ok (false, d :: rest) :=
  if_neg other

theorem optional_of_ends {c : Char} {rest : List Char} (ends : Ends rest)
    (other : c ∉ [',', ']', '\x7d']) : optional c rest = .ok (false, rest) := by
  cases rest with
  | nil => rfl
  | cons d rest =>
    apply optional_of_ne
    rintro rfl
    exact other (by simpa using ends d rfl)

theorem exponentLetter_of_ends {rest : List Char} (ends : Ends rest) :
    exponentLetter rest = .ok (false, rest) := by
  rw [exponentLetter, bind_of_ok (optional_of_ends ends (by decide))]
  exact optional_of_ends ends (by decide)

theorem numberParts_append {d : Char} {ds rest : List Char} (all : ∀ c ∈ d :: ds, c.isDigit)
    (shortest : d = '0' → ds = []) (ends : Ends rest) :
    numberParts (d :: ds ++ rest) =
      .ok ({ negative := false, whole := d :: ds, fraction := none, exponent := none }, rest) := by
  have unsigned : d ≠ '-' := by
    rintro rfl
    exact absurd (all _ List.mem_cons_self) (by decide)
  have fraction : fraction? rest = .ok (none, rest) := by
    rw [fraction?, bind_of_ok (optional_of_ends ends (by decide))]
    rfl
  have exponent : exponent? rest = .ok (none, rest) := by
    rw [exponent?, bind_of_ok (exponentLetter_of_ends ends)]
    rfl
  rw [numberParts, List.cons_append, bind_of_ok (optional_of_ne unsigned _), ← List.cons_append,
    bind_of_ok (wholeDigits_append all shortest ends), bind_of_ok fraction, bind_of_ok exponent]
  rfl

theorem number_whole (n : UInt64) :
    NumberParts.number
      { negative := false, whole := Nat.toDigits 10 n.toNat, fraction := none, exponent := none } =
      .word n := by
  have small : n.toNat < NumberParts.wordBound := n.toNat_lt
  simp [NumberParts.number, Nat.ofDigitChars_ten_toDigits, small]

theorem exists_toDigits (n : Nat) :
    ∃ c cs, Nat.toDigits 10 n = c :: cs ∧ (∀ d ∈ c :: cs, d.isDigit) ∧ (c = '0' → cs = []) := by
  have all : ∀ d ∈ Nat.toDigits 10 n, d.isDigit :=
    fun d member => Nat.isDigit_of_mem_toDigits (by decide) (by decide) member
  cases text : Nat.toDigits 10 n with
  | nil => exact absurd text Nat.toDigits_ne_nil
  | cons c cs =>
    rw [text] at all
    refine ⟨c, cs, rfl, all, ?_⟩
    rintro rfl
    exact Numeral.eq_nil_of_toDigits_eq_zero_cons text

theorem number_toDigits (n : UInt64) {rest : List Char} (ends : Ends rest) :
    number (Nat.toDigits 10 n.toNat ++ rest) = .ok (.word n, rest) := by
  have whole := number_whole n
  obtain ⟨c, cs, text, all, shortest⟩ := exists_toDigits n.toNat
  rw [text] at whole ⊢
  rw [number, bind_of_ok (numberParts_append all shortest ends), whole]
  rfl

/-! ### Values that are no lists and no objects -/

theorem scalar?_string (s : String) (rest : List Char) :
    scalar? false (Json.quote s ++ rest) = .ok (some (.string s), rest) := by
  rw [quote_append, scalar?, bind_of_ok (peek_cons rfl _)]
  show (do return some (.string (← string false)) : Reader (Option Json))
    (s.toList.flatMap Json.escape ++ '"' :: rest) = _
  rw [bind_of_ok (string_quote s rest)]
  rfl

theorem scalar?_null (rest : List Char) :
    scalar? false ("null".toList ++ rest) = .ok (some .null, rest) := rfl

theorem isBlank_of_isDigit {c : Char} (digit : c.isDigit) : isBlank c = false := by
  obtain ⟨d, small, rfl⟩ := Numeral.digitChar_of_isDigit digit
  have all : ∀ d : Fin 10, isBlank (Nat.digitChar d) = false := by decide
  exact all ⟨d, small⟩

theorem scalar?_of_isDigit {c : Char} (digit : c.isDigit) (rest : List Char) :
    scalar? false (c :: rest) = (do return some (.number (← number)) : Reader _) (c :: rest) := by
  have apart (mark : Char) (other : mark.isDigit = false) : c ≠ mark := by
    rintro rfl
    rw [other] at digit
    cases digit
  have bracket := apart '[' rfl
  have brace := apart '\x7b' rfl
  have quote := apart '"' rfl
  have n := apart 'n' rfl
  have t := apart 't' rfl
  have f := apart 'f' rfl
  rw [scalar?, bind_of_ok (peek_cons (isBlank_of_isDigit digit) _)]
  simp only [bracket, brace, n, t, f, quote, digit, or_self, or_true, if_true, if_false]
  rfl

theorem scalar?_word (n : UInt64) {rest : List Char} (ends : Ends rest) :
    scalar? false (Nat.toDigits 10 n.toNat ++ rest) = .ok (some (.word n), rest) := by
  have read := number_toDigits n ends
  obtain ⟨c, cs, text, all, -⟩ := exists_toDigits n.toNat
  rw [text] at read ⊢
  rw [List.cons_append, scalar?_of_isDigit (all c List.mem_cons_self), ← List.cons_append,
    bind_of_ok read]
  rfl

end Reader

inductive Json.Plain : Json → Prop where
  | null : Plain null
  | word (n : UInt64) : Plain (word n)
  | string (s : String) : Plain (string s)

namespace Reader

theorem opens_quote (s : String) : Opens (Json.quote s) := ⟨'"', rfl, by decide, by decide⟩

theorem opens_toDigits (n : Nat) : Opens (Nat.toDigits 10 n) := by
  obtain ⟨c, cs, text, all, -⟩ := exists_toDigits n
  have digit := all c List.mem_cons_self
  rw [text]
  refine ⟨c, rfl, isBlank_of_isDigit digit, ?_⟩
  rintro rfl
  cases digit

theorem reads_scalar? {json : Json} (plain : json.Plain) :
    Reads (scalar? false) json.compactChars (some json) := by
  cases plain with
  | null => exact ⟨⟨'n', rfl, by decide, by decide⟩, fun rest _ => scalar?_null rest⟩
  | word n => exact ⟨opens_toDigits n.toNat, fun rest ends => scalar?_word n ends⟩
  | string s => exact ⟨opens_quote s, fun rest _ => scalar?_string s rest⟩

theorem reads_scalar {json : Json} (plain : json.Plain) : Reads scalar json.compactChars json :=
  (reads_scalar? plain).andThen fun _ => rfl

theorem reads_value {json : Json} (plain : json.Plain) (depth : Nat) :
    Reads (value false depth) json.compactChars json := by
  unfold value
  exact (reads_scalar? plain).andThen fun _ => rfl

theorem reads_quoted (s : String) : Reads quoted (Json.quote s) s :=
  (reads_scalar (.string s)).andThen fun _ => rfl

theorem reads_word64 (n : UInt64) : Reads word64 (Json.word n).compactChars n :=
  (reads_scalar (.word n)).andThen fun _ => rfl

end Reader
end InventoryIds
