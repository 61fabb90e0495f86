import InventoryIds.Proofs.Numerals

/-!
# Numerals in order

Texts are compared character by character. Numerals of one length stand in the order of the
numbers that they write: a fixed number of digits in any base (`digits_lt_digits_iff`), and decimals
that are padded to one length (`padded_lt_padded_iff`).
-/

namespace InventoryIds

/-- Behind parts of one length, what follows decides only if the parts are equal. -/
theorem append_lt_append_iff {α : Type} [LT α] [Std.Irrefl (α := α) (· < ·)]
    {a b c d : List α} (same : a.length = c.length) :
    a ++ b < c ++ d ↔ a < c ∨ a = c ∧ b < d := by
  induction a generalizing c with
  | nil =>
    obtain rfl := List.eq_nil_of_length_eq_zero same.symm
    simp
  | cons x a ih =>
    cases c with
    | nil => cases same
    | cons y c =>
      rw [List.cons_append, List.cons_append, List.cons_lt_cons_iff, List.cons_lt_cons_iff,
        ih (Nat.succ.inj same), List.cons.injEq, and_or_left, ← and_assoc, or_assoc]

namespace Numeral

/-! ### A fixed number of digits -/

theorem add_mul_lt_iff {base x y r s : Nat} (left : r < base) (right : s < base) :
    r + base * x < s + base * y ↔ x < y ∨ x = y ∧ r < s := by
  rcases Nat.lt_trichotomy x y with less | rfl | greater
  · have step : base * (x + 1) ≤ base * y := Nat.mul_le_mul_left base less
    rw [Nat.mul_succ] at step
    omega
  · omega
  · have step : base * (y + 1) ≤ base * x := Nat.mul_le_mul_left base greater
    rw [Nat.mul_succ] at step
    omega

theorem digits_eq_digits_iff {base width m n : Nat} :
    digits base width m = digits base width n ↔ m % base ^ width = n % base ^ width := by
  constructor
  · intro same
    rw [← value_digits, same, value_digits]
  · intro same
    induction width generalizing m n with
    | zero => rfl
    | succ width ih =>
      rw [Nat.pow_succ'] at same
      have front := congrArg (· / base) same
      have last := congrArg (· % base) same
      simp only [Nat.mod_mul_right_div_self, Nat.mod_mul_right_mod] at front last
      rw [digits, digits, ih front, last]

theorem digits_lt_digits_iff {base width m n : Nat} (positive : 0 < base) :
    digits base width m < digits base width n ↔ m % base ^ width < n % base ^ width := by
  induction width generalizing m n with
  | zero => simp [digits, Nat.mod_one]
  | succ width ih =>
    have lengths :
        (digits base width (m / base)).length = (digits base width (n / base)).length := by
      rw [length_digits, length_digits]
    have last : [m % base] < [n % base] ↔ m % base < n % base := by simp [List.cons_lt_cons_iff]
    rw [digits, digits, append_lt_append_iff lengths, ih, digits_eq_digits_iff, last, Nat.pow_succ',
      Nat.mod_mul, Nat.mod_mul, add_mul_lt_iff (Nat.mod_lt m positive) (Nat.mod_lt n positive)]

/-- Signs that stand in the order of their digits compare as the digits do. -/
theorem map_lt_map_iff {α : Type} [LT α] [Std.Irrefl (α := α) (· < ·)] {base : Nat} {sign : Nat → α}
    (ordered : ∀ d < base, ∀ e < base, sign d < sign e ↔ d < e) {ds es : List Nat}
    (left : ∀ d ∈ ds, d < base) (right : ∀ e ∈ es, e < base) :
    ds.map sign < es.map sign ↔ ds < es := by
  induction ds generalizing es with
  | nil => cases es <;> simp
  | cons d ds ih =>
    cases es with
    | nil => simp
    | cons e es =>
      obtain ⟨d_lt, ds_lt⟩ := List.forall_mem_cons.mp left
      obtain ⟨e_lt, es_lt⟩ := List.forall_mem_cons.mp right
      have equal : sign d = sign e ↔ d = e := by
        refine ⟨fun same => ?_, congrArg sign⟩
        have not_lt := (ordered d d_lt e e_lt).not.mp (same ▸ Std.Irrefl.irrefl _)
        have not_gt := (ordered e e_lt d d_lt).not.mp (same ▸ Std.Irrefl.irrefl _)
        omega
      rw [List.map_cons, List.map_cons, List.cons_lt_cons_iff, List.cons_lt_cons_iff,
        ordered d d_lt e e_lt, equal, ih ds_lt es_lt]

/-! ### Padded decimals -/

theorem padded_succ {width : Nat} (positive : 0 < width) (n : Nat) :
    padded (width + 1) n = padded width (n / 10) ++ [Nat.digitChar (n % 10)] := by
  by_cases small : n < 10
  · rw [Nat.div_eq_of_lt small, Nat.mod_eq_of_lt small, padded, padded, Nat.toDigits_zero,
      Nat.toDigits_of_lt_base small, List.leftpad, List.leftpad, List.length_singleton,
      List.length_singleton, Nat.add_sub_cancel, ← List.replicate_succ',
      Nat.sub_add_cancel positive]
  · rw [padded, padded, Nat.toDigits_of_base_le (by decide) (Nat.le_of_not_lt small), List.leftpad,
      List.leftpad, List.length_append, List.length_singleton, Nat.add_sub_add_right,
      List.append_assoc]

/-- Padded numbers that fit are written in as many digits as they are padded to. -/
theorem padded_eq_map_digits {width n : Nat} (positive : 0 < width) (short : n < 10 ^ width) :
    padded width n = (digits 10 width n).map Nat.digitChar := by
  -- From width 1 on: padded to no width at all, zero is still a digit.
  induction positive generalizing n with
  | refl =>
    have small : n < 10 := short
    rw [padded, Nat.toDigits_of_lt_base small]
    simp [digits, Nat.mod_eq_of_lt small]
  | step positive ih =>
    rw [Nat.pow_succ] at short
    rw [padded_succ positive, ih (Nat.div_lt_of_lt_mul (by omega)), digits, List.map_append]
    rfl

theorem padded_length_padded (width n : Nat) :
    padded (padded width n).length n = padded width n := by
  rw [length_padded, padded, padded, List.leftpad, List.leftpad]
  congr 2
  omega

theorem lt_pow_length_padded (width n : Nat) : n < 10 ^ (padded width n).length := by
  refine Nat.lt_of_lt_of_le (lt_pow_length_toDigits n) (Nat.pow_le_pow_right (by decide) ?_)
  rw [length_padded]
  exact Nat.le_max_right _ _

/-- Padded numbers of one length stand in the order of the numbers. -/
theorem padded_lt_padded_iff {width m n : Nat}
    (same : (padded width m).length = (padded width n).length) :
    padded width m < padded width n ↔ m < n := by
  have left := lt_pow_length_padded width m
  have right := lt_pow_length_padded width n
  have positive : 0 < (padded width n).length := by
    have some_digit := Nat.length_toDigits_pos (b := 10) (n := n)
    rw [length_padded]
    omega
  have ordered : ∀ d < 10, ∀ e < 10, Nat.digitChar d < Nat.digitChar e ↔ d < e := by decide
  rw [← padded_length_padded width m, ← padded_length_padded width n]
  rw [same] at left ⊢
  rw [padded_eq_map_digits positive left, padded_eq_map_digits positive right,
    map_lt_map_iff ordered (fun _ => lt_of_mem_digits (by decide))
      (fun _ => lt_of_mem_digits (by decide)),
    digits_lt_digits_iff (by decide), Nat.mod_eq_of_lt left, Nat.mod_eq_of_lt right]

end Numeral
end InventoryIds
