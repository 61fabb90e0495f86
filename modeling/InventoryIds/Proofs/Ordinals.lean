import Mathlib.Data.Nat.Digits.Lemmas
import InventoryIds.Rendering
import InventoryIds.Proofs.NumeralOrder

/-!
# Ordinals as they are shown

A reserved number is shown as the decimal of its ordinal, whole and padded to a width. The text
gives the ordinal back, and texts of one width stand in the order of the numbers, the shorter ones
first (`shown_exact_and_ordered`).
-/

namespace InventoryIds

namespace Numeral

theorem length_toDigits_eq {n : Nat} (positive : 0 < n) :
    (Nat.toDigits 10 n).length = (Nat.digits 10 n).length := by
  have same {k : Nat} (some_digit : 0 < k) :
      (Nat.toDigits 10 n).length ≤ k ↔ (Nat.digits 10 n).length ≤ k := by
    rw [Nat.length_toDigits_le_iff (by decide) some_digit, Nat.digits_length_le_iff (by decide)]
  have some_digit : 0 < (Nat.digits 10 n).length :=
    List.length_pos_iff.mpr (Nat.digits_ne_nil_iff_ne_zero.mpr positive.ne')
  exact Nat.le_antisymm ((same some_digit).mpr (Nat.le_refl _))
    ((same Nat.length_toDigits_pos).mp (Nat.le_refl _))

/-- A number that outgrows its padding does not begin with a zero. -/
theorem head?_padded_ne_zero {width n : Nat} (positive : 0 < n)
    (outgrown : width < (padded width n).length) : (padded width n).head? ≠ some '0' := by
  have long : width ≤ (Nat.toDigits 10 n).length := by
    rw [length_padded] at outgrown
    omega
  rw [padded, List.leftpad, Nat.sub_eq_zero_of_le long]
  exact head?_toDigits_ne_zero positive

theorem length_padded_mono {width m n : Nat} (le : m ≤ n) :
    (padded width m).length ≤ (padded width n).length := by
  have digits := length_toDigits_le le
  rw [length_padded, length_padded]
  omega

end Numeral

namespace OrdinalWidth

/-- What is shown of a reserved number: its ordinal, in no fewer digits than the width. -/
def shown (width : OrdinalWidth) (reserved : UInt64) : List Char :=
  Numeral.padded width.minDigits (reserved.toNat + 1)

variable {width : OrdinalWidth} {first second : UInt64}

theorem shown_injective (width : OrdinalWidth) : Function.Injective width.shown := by
  intro first second same
  exact UInt64.toNat_inj.mp (Nat.succ.inj (Numeral.padded_inj same))

/-- Of two numbers the smaller one is shown in fewer digits, or in as many and further in front. -/
theorem shown_before (less : first < second) :
    (width.shown first).length < (width.shown second).length ∨
      (width.shown first).length = (width.shown second).length ∧
        width.shown first < width.shown second := by
  have ordinals : first.toNat + 1 < second.toNat + 1 :=
    Nat.succ_lt_succ (UInt64.lt_iff_toNat_lt.mp less)
  have lengths : (width.shown first).length ≤ (width.shown second).length :=
    Numeral.length_padded_mono (Nat.le_of_lt ordinals)
  refine (Nat.lt_or_eq_of_le lengths).imp_right fun same => ⟨same, ?_⟩
  exact (Numeral.padded_lt_padded_iff same).mpr ordinals

theorem shown_lt (less : first < second) (fits : second.toNat + 1 < 10 ^ width.minDigits) :
    width.shown first < width.shown second := by
  have ordinals : first.toNat < second.toNat := UInt64.lt_iff_toNat_lt.mp less
  have positive : 0 < width.minDigits := by
    refine Nat.pos_of_ne_zero fun zero => ?_
    rw [zero] at fits
    omega
  have padded {reserved : UInt64} (short : reserved.toNat + 1 < 10 ^ width.minDigits) :
      (width.shown reserved).length = width.minDigits :=
    Numeral.length_padded_of_lt positive short
  have same : (width.shown first).length = (width.shown second).length := by
    rw [padded fits, padded (by omega)]
  exact (Numeral.padded_lt_padded_iff same).mpr (by omega)

/-- A reserved number is shown as its ordinal, which is the number and one and may lie beyond the
words: in decimal digits, as many as the ordinal has or the width asks for, and without a zero in
front of more digits than that. No two numbers are shown alike. The smaller of two numbers is shown
in fewer digits or comes first in the order of texts, and always the latter if no ordinal outgrows
the width. The standard width is the width five. -/
theorem shown_exact_and_ordered (width : OrdinalWidth) :
    (∀ (context : Context) (draft : Draft) (reserved : UInt64),
      (Token.directive (.sequence width)).render { context with sequence := some reserved } draft =
        { draft with text := draft.text ++ String.ofList (width.shown reserved) }) ∧
    (∀ reserved : UInt64,
      (∀ c ∈ width.shown reserved, c.isDigit) ∧
      (width.shown reserved).length =
        max width.minDigits (Nat.digits 10 (reserved.toNat + 1)).length ∧
      Nat.ofDigitChars 10 (width.shown reserved) 0 = reserved.toNat + 1 ∧
      (width.minDigits < (width.shown reserved).length →
        (width.shown reserved).head? ≠ some '0')) ∧
    Function.Injective width.shown ∧
    (∀ first second : UInt64, first < second →
      ((width.shown first).length < (width.shown second).length ∨
        (width.shown first).length = (width.shown second).length ∧
          width.shown first < width.shown second) ∧
      (second.toNat + 1 < 10 ^ width.minDigits → width.shown first < width.shown second)) ∧
    ∀ (context : Context) (draft : Draft),
      (Token.directive (.sequence .standard)).render context draft =
        (Token.directive (.sequence (.explicit 5))).render context draft := by
  refine ⟨fun _ _ _ => rfl, fun reserved => ⟨?digits, ?length, ?value, ?leading⟩,
    shown_injective width, fun first second less => ⟨shown_before less, shown_lt less⟩,
    fun _ _ => rfl⟩
  case digits => exact fun c member => Numeral.isDigit_of_mem_padded member
  case length =>
    rw [← Numeral.length_toDigits_eq (Nat.succ_pos _)]
    exact Numeral.length_padded _ _
  case value => exact Numeral.ofDigitChars_padded _ _
  case leading => exact Numeral.head?_padded_ne_zero (Nat.succ_pos _)

theorem shown_exact_and_ordered_outgrown :
    ∃ (width : OrdinalWidth) (first second last : UInt64),
      width.minDigits = 2 ∧ first < second ∧ second < last ∧
      second.toNat + 1 < 10 ^ width.minDigits ∧
      width.shown first = ['0', '9'] ∧ width.shown second = ['4', '2'] ∧
      String.ofList (width.shown last) = "18446744073709551616" ∧
      ('9' ∈ width.shown first ∧ '9'.isDigit) ∧
      (width.minDigits < (width.shown last).length ∧ (width.shown last).head? ≠ some '0') ∧
      width.shown first < width.shown second ∧
      ((width.shown second).length < (width.shown last).length ∨
        (width.shown second).length = (width.shown last).length ∧
          width.shown second < width.shown last) := by
  let width : OrdinalWidth := .explicit 2
  obtain ⟨-, texts, -, order, -⟩ := shown_exact_and_ordered width
  have less : (8 : UInt64) < 41 := by decide
  have short : (41 : UInt64) < 18446744073709551615 := by decide
  have fits : (41 : UInt64).toNat + 1 < 10 ^ width.minDigits := by decide
  have member : '9' ∈ width.shown 8 := by decide
  have outgrown : width.minDigits < (width.shown 18446744073709551615).length := by decide
  exact ⟨width, 8, 41, 18446744073709551615, rfl, less, short, fits, by decide, by decide,
    by decide, ⟨member, (texts 8).1 '9' member⟩, ⟨outgrown, (texts _).2.2.2 outgrown⟩,
    (order 8 41 less).2 fits, (order 41 _ short).1⟩

end OrdinalWidth
end InventoryIds
