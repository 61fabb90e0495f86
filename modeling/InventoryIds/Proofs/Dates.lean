import InventoryIds.Rendering
import InventoryIds.Proofs.Calendar
import InventoryIds.Proofs.Numerals

/-!
# Dates as they are shown

Every field of a civil time but the year has at most two digits. So does the length of a shown
date depend on its pattern alone (`DatePattern.length_text`), as long as the year has four digits.
-/

namespace InventoryIds

namespace Instant
open Calendar

/-- The year is shown in four digits, without a sign. -/
def FourDigitYear (instant : Instant) : Prop :=
  0 ≤ instant.civil.year ∧ instant.civil.year ≤ 9999

instance (instant : Instant) : Decidable instant.FourDigitYear :=
  inferInstanceAs (Decidable (_ ∧ _))

theorem month_lt (instant : Instant) : instant.civil.month < 100 := by
  have bound := instant.onCalendar_civil.month.2
  omega

theorem day_lt (instant : Instant) : instant.civil.day < 100 := by
  obtain ⟨⟨first, last⟩, -, inMonth⟩ := instant.onCalendar_civil
  have bound : ∀ leap, ∀ place < 12, (monthLengths leap).getD place 0 ≤ 31 := by decide
  have short : instant.civil.monthLength ≤ 31 := bound _ _ (by omega)
  omega

theorem hour_lt (instant : Instant) : instant.civil.hour < 100 := by
  have bound := instant.shows_civil.timeOfDay.1
  omega

theorem minute_lt (instant : Instant) : instant.civil.minute < 100 := by
  have bound := instant.shows_civil.timeOfDay.2
  omega

theorem second_lt (instant : Instant) : instant.civil.second < 100 := by
  have second := instant.shows_civil.second
  split at second <;> omega

end Instant

/-- The characters of a field, if the year has four digits. -/
def DateField.width : DateField → Nat
  | year => 4
  | mark _ => 1
  | _ => 2

theorem yearText_eq_padded {year : Int} (fourDigits : 0 ≤ year ∧ year ≤ 9999) :
    yearText year = Numeral.padded 4 year.toNat :=
  if_pos fourDigits

theorem DateField.length_text {now : Instant} (fourDigits : now.FourDigitYear) (field : DateField) :
    (field.text now.civil).length = field.width := by
  cases field with
  | year =>
    have bound := fourDigits.2
    rw [text, yearText_eq_padded fourDigits]
    exact Numeral.length_padded_of_lt (by decide) (by omega)
  | shortYear => exact Numeral.length_padded_of_lt (by decide) (by omega)
  | month => exact Numeral.length_padded_of_lt (by decide) now.month_lt
  | day => exact Numeral.length_padded_of_lt (by decide) now.day_lt
  | hour => exact Numeral.length_padded_of_lt (by decide) now.hour_lt
  | minute => exact Numeral.length_padded_of_lt (by decide) now.minute_lt
  | second => exact Numeral.length_padded_of_lt (by decide) now.second_lt
  | mark c => rfl

/-- A date takes as many characters as the spelling of its pattern. -/
theorem DatePattern.length_text {now : Instant} (fourDigits : now.FourDigitYear)
    (pattern : DatePattern) : (pattern.text now).length = pattern.spelling.utf8ByteSize := by
  have fields : (pattern.fields.map DateField.width).sum = pattern.spelling.utf8ByteSize := by
    cases pattern <;> rfl
  rw [← fields, text, List.length_flatMap]
  exact congrArg List.sum (List.map_congr_left fun field _ => DateField.length_text fourDigits field)

end InventoryIds
