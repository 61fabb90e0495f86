import Mathlib.Algebra.GroupWithZero.Nat
import InventoryIds.Numeral

/-!
# Words, numerals and their numbers

The words next to a word, and text in digits and the number it writes. `toDigits_ofDigitChars` says
that decimal digits without a leading zero are the text of their number, and `padded_inj` that
padding hides no number.
`value_digits` says that a fixed number of digits writes a number modulo a power of the base, and
`read_map_digits` that this number is read back from the digits of an alphabet.
-/

namespace InventoryIds

theorem toNat_add_one {word : UInt64} (room : word.toNat + 1 < UInt64.size) :
    (word + 1).toNat = word.toNat + 1 := by
  rw [UInt64.toNat_add, UInt64.toNat_one]
  exact Nat.mod_eq_of_lt room

theorem toNat_sub_one {word : UInt64} (positive : 0 < word.toNat) :
    (word - 1).toNat = word.toNat - 1 :=
  UInt64.toNat_sub_of_le word 1 (UInt64.le_iff_toNat_le.mpr positive)

namespace Numeral

theorem digitChar_of_isDigit {c : Char} (digit : c.isDigit) : ∃ d, d < 10 ∧ c = Nat.digitChar d := by
  have bounds := Char.isDigit_iff_toNat.mp digit
  have zero : '0'.toNat = 48 := rfl
  have nine : '9'.toNat = 57 := rfl
  have small : c.toNat - 48 < 10 := by omega
  refine ⟨c.toNat - 48, small, Char.toNat_inj.mp ?_⟩
  rw [Nat.toNat_digitChar_of_lt_ten small]
  omega

theorem toDigits_ofDigitChars_of_pos {cs : List Char} {n : Nat} (positive : 0 < n)
    (digits : ∀ c ∈ cs, c.isDigit) :
    Nat.toDigits 10 (Nat.ofDigitChars 10 cs n) = Nat.toDigits 10 n ++ cs := by
  induction cs generalizing n with
  | nil => simp
  | cons c cs ih =>
    obtain ⟨d, small, rfl⟩ := digitChar_of_isDigit (digits _ List.mem_cons_self)
    have rest : ∀ c ∈ cs, c.isDigit := fun c member => digits c (List.mem_cons_of_mem _ member)
    rw [Nat.ofDigitChars_cons_digitChar_of_lt_ten small, ih (by omega) rest,
      ← Nat.toDigits_append_toDigits (by decide) positive small,
      Nat.toDigits_of_lt_base small, List.append_assoc, List.singleton_append]

/-- Digits are the text of their number, unless they lead with a zero that could be left out. -/
theorem toDigits_ofDigitChars {c : Char} {cs : List Char} (digits : ∀ d ∈ c :: cs, d.isDigit)
    (shortest : c = '0' → cs = []) :
    Nat.toDigits 10 (Nat.ofDigitChars 10 (c :: cs) 0) = c :: cs := by
  obtain ⟨d, small, rfl⟩ := digitChar_of_isDigit (digits _ List.mem_cons_self)
  have rest : ∀ c ∈ cs, c.isDigit := fun c member => digits c (List.mem_cons_of_mem _ member)
  rw [Nat.ofDigitChars_cons_digitChar_of_lt_ten small, Nat.mul_zero, Nat.zero_add]
  by_cases zero : d = 0
  · subst zero
    rw [shortest rfl]
    rfl
  · rw [toDigits_ofDigitChars_of_pos (by omega) rest, Nat.toDigits_of_lt_base small]
    rfl

theorem head?_toDigits_ne_zero {n : Nat} (positive : 0 < n) :
    (Nat.toDigits 10 n).head? ≠ some '0' := by
  induction n using Nat.base_induction 10 (by decide) with
  | single n small =>
    rw [Nat.toDigits_of_lt_base small]
    simp
    omega
  | digit m d small more ih =>
    rw [← Nat.toDigits_append_toDigits (by decide) more small, List.head?_append]
    cases first : (Nat.toDigits 10 m).head? with
    | none => exact absurd (List.head?_eq_none_iff.mp first) (by simp)
    | some c =>
      rw [first] at ih
      exact ih more

/-- The text of a number leads with a zero only if it is that zero. -/
theorem eq_nil_of_toDigits_eq_zero_cons {n : Nat} {cs : List Char}
    (text : Nat.toDigits 10 n = '0' :: cs) : cs = [] := by
  by_cases zero : n = 0
  · subst zero
    rw [Nat.toDigits_zero] at text
    exact (List.cons.inj text).2.symm
  · have leading := head?_toDigits_ne_zero (n := n) (by omega)
    rw [text] at leading
    exact absurd rfl leading

theorem lt_pow_length_toDigits (n : Nat) : n < 10 ^ (Nat.toDigits 10 n).length :=
  (Nat.length_toDigits_le_iff (by decide) Nat.length_toDigits_pos).mp (Nat.le_refl _)

theorem length_toDigits_le {m n : Nat} (le : m ≤ n) :
    (Nat.toDigits 10 m).length ≤ (Nat.toDigits 10 n).length := by
  have bound := lt_pow_length_toDigits n
  exact (Nat.length_toDigits_le_iff (by decide) Nat.length_toDigits_pos).mpr (by omega)

/-! ### Padding -/

theorem length_padded (width n : Nat) :
    (padded width n).length = max width (Nat.toDigits 10 n).length := by
  simp [padded]
  omega

theorem length_padded_of_lt {width n : Nat} (positive : 0 < width) (short : n < 10 ^ width) :
    (padded width n).length = width := by
  rw [length_padded]
  exact Nat.max_eq_left ((Nat.length_toDigits_le_iff (by decide) positive).mpr short)

theorem ofDigitChars_padded (width n : Nat) : Nat.ofDigitChars 10 (padded width n) 0 = n := by
  simp [padded, List.leftpad, Nat.ofDigitChars_append]

theorem isDigit_of_mem_padded {width n : Nat} {c : Char} (member : c ∈ padded width n) :
    c.isDigit := by
  rw [padded, List.leftpad] at member
  rcases List.mem_append.mp member with zero | digit
  · rw [List.eq_of_mem_replicate zero]
    rfl
  · exact Nat.isDigit_of_mem_toDigits (by decide) (by decide) digit

theorem padded_inj {width m n : Nat} (same : padded width m = padded width n) : m = n := by
  rw [← ofDigitChars_padded width m, same, ofDigitChars_padded]

/-! ### A fixed number of digits -/

theorem lt_of_mem_digits {base width n d : Nat} (positive : 0 < base)
    (member : d ∈ digits base width n) : d < base := by
  induction width generalizing n with
  | zero => cases member
  | succ width ih =>
    rcases List.mem_append.mp member with front | last
    · exact ih front
    · rw [List.mem_singleton.mp last]
      exact Nat.mod_lt n positive

theorem value_concat (base : Nat) (ds : List Nat) (d : Nat) :
    value base (ds ++ [d]) = base * value base ds + d := by
  simp [value]

theorem value_digits (base width n : Nat) :
    value base (digits base width n) = n % base ^ width := by
  induction width generalizing n with
  | zero => simp [digits, value, Nat.mod_one]
  | succ width ih =>
    rw [digits, value_concat, ih, Nat.pow_succ, Nat.mul_comm (base ^ width), Nat.mod_mul]
    omega

/-- One more digit comes in front of the others. -/
theorem digits_succ_eq_cons (base width n : Nat) :
    digits base (width + 1) n = n / base ^ width % base :: digits base width n := by
  induction width generalizing n with
  | zero => simp [digits]
  | succ width ih => rw [digits, ih, Nat.div_div_eq_div_mul, ← Nat.pow_succ', List.cons_append, digits]

theorem getElem?_digits {base width place : Nat} (within : place < width) (n : Nat) :
    (digits base width n)[place]? = some (n / base ^ (width - 1 - place) % base) := by
  induction width generalizing n with
  | zero => exact absurd within (Nat.not_lt_zero place)
  | succ width ih =>
    rcases Nat.lt_succ_iff_lt_or_eq.mp within with front | rfl
    · have behind : width + 1 - 1 - place = width - 1 - place + 1 := by omega
      rw [digits, List.getElem?_append_left (by simpa using front), ih front,
        Nat.div_div_eq_div_mul, behind, Nat.pow_succ']
    · simp [digits]

/-! ### Texts in an alphabet -/

/-- The number that a text writes in the characters of an alphabet, each of which stands there at
the place that is its value. -/
def read (alphabet text : List Char) : Nat :=
  value alphabet.length (text.map alphabet.idxOf)

theorem read_map_digits {alphabet : List Char} {char : Nat → Char}
    (places : ∀ d < alphabet.length, alphabet.idxOf (char d) = d) (positive : 0 < alphabet.length)
    (width n : Nat) :
    read alphabet ((digits alphabet.length width n).map char) = n % alphabet.length ^ width := by
  have back : ∀ d ∈ digits alphabet.length width n, (alphabet.idxOf ∘ char) d = id d :=
    fun d listed => places d (lt_of_mem_digits positive listed)
  rw [read, List.map_map, List.map_congr_left back, List.map_id, value_digits]

end Numeral
end InventoryIds
