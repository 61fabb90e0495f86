import Mathlib.Data.Char
import Mathlib.Data.List.Lex
import InventoryIds.Proofs.Dates
import InventoryIds.Proofs.NumeralOrder

/-!
# Dates by their patterns

A date is the spelling of its pattern with numbers in the place of the letters (`text_eq_filled`).
All its numbers have as many digits at every instant, so that dates compare field by field
(`flatMap_text_lt_iff`). Those that begin with the year stand in the order of time
(`text_filled_and_sorted`).
-/

namespace InventoryIds

namespace DateField

def number (time : CivilTime) : DateField → Nat
  | year => time.year.toNat
  | shortYear => (time.year % 100).toNat
  | month => time.month
  | day => time.day
  | hour => time.hour
  | minute => time.minute
  | second => time.second
  | mark _ => 0

variable {time other : CivilTime}

theorem text_eq_text_iff (timeYear : 0 ≤ time.year ∧ time.year ≤ 9999)
    (otherYear : 0 ≤ other.year ∧ other.year ≤ 9999) (field : DateField) :
    field.text time = field.text other ↔ field.number time = field.number other := by
  cases field with
  | mark c => exact iff_of_true rfl rfl
  | year =>
    rw [text, text, yearText_eq_padded timeYear, yearText_eq_padded otherYear]
    exact ⟨Numeral.padded_inj, congrArg (Numeral.padded 4)⟩
  | _ => exact ⟨Numeral.padded_inj, congrArg (Numeral.padded 2)⟩

theorem text_lt_text_iff (timeYear : 0 ≤ time.year ∧ time.year ≤ 9999)
    (otherYear : 0 ≤ other.year ∧ other.year ≤ 9999) {field : DateField}
    (lengths : (field.text time).length = (field.text other).length) :
    field.text time < field.text other ↔ field.number time < field.number other := by
  cases field with
  | mark c => exact iff_of_false (List.lt_irrefl _) (Nat.lt_irrefl _)
  | year =>
    rw [text, text, yearText_eq_padded timeYear, yearText_eq_padded otherYear] at *
    exact Numeral.padded_lt_padded_iff lengths
  | _ => exact Numeral.padded_lt_padded_iff lengths

theorem flatMap_text_lt_iff {first second : Instant} (firstYear : first.FourDigitYear)
    (secondYear : second.FourDigitYear) (fields : List DateField) :
    fields.flatMap (text first.civil) < fields.flatMap (text second.civil) ↔
      fields.map (number first.civil) < fields.map (number second.civil) := by
  induction fields with
  | nil => simp
  | cons field fields ih =>
    have lengths : (field.text first.civil).length = (field.text second.civil).length := by
      rw [length_text firstYear, length_text secondYear]
    rw [List.flatMap_cons, List.flatMap_cons, append_lt_append_iff lengths,
      text_lt_text_iff firstYear secondYear lengths, text_eq_text_iff firstYear secondYear, ih,
      List.map_cons, List.map_cons, List.cons_lt_cons_iff]

end DateField

namespace DatePattern

/-- A spelling with the numbers of a time in the place of its letters. -/
def filled (time : CivilTime) : List Char → List Char
  | 'y' :: 'y' :: 'y' :: 'y' :: rest => Numeral.padded 4 time.year.toNat ++ filled time rest
  | 'y' :: 'y' :: rest => Numeral.padded 2 (time.year % 100).toNat ++ filled time rest
  | 'M' :: 'M' :: rest => Numeral.padded 2 time.month ++ filled time rest
  | 'd' :: 'd' :: rest => Numeral.padded 2 time.day ++ filled time rest
  | 'H' :: 'H' :: rest => Numeral.padded 2 time.hour ++ filled time rest
  | 'm' :: 'm' :: rest => Numeral.padded 2 time.minute ++ filled time rest
  | 's' :: 's' :: rest => Numeral.padded 2 time.second ++ filled time rest
  | c :: rest => c :: filled time rest
  | [] => []

/-- The patterns that show the year in front and every larger field in front of a smaller one. -/
def yearFirst : List DatePattern :=
  [year, yearMonth, dashedYearMonth, compact, dashed, minuteStamp]

theorem flatMap_text_eq_filled {time : CivilTime} (fourDigits : 0 ≤ time.year ∧ time.year ≤ 9999)
    (pattern : DatePattern) :
    pattern.fields.flatMap (DateField.text time) = filled time pattern.spelling.toList := by
  have year : DateField.text time .year = Numeral.padded 4 time.year.toNat :=
    yearText_eq_padded fourDigits
  cases pattern <;> simp only [fields, List.flatMap_cons, List.flatMap_nil, year] <;> rfl

theorem text_eq_filled {now : Instant} (fourDigits : now.FourDigitYear) (pattern : DatePattern) :
    pattern.text now = filled now.civil pattern.spelling.toList :=
  flatMap_text_eq_filled fourDigits pattern

theorem length_text_eq {now : Instant} (fourDigits : now.FourDigitYear) (pattern : DatePattern) :
    (pattern.text now).length = pattern.spelling.length := by
  rw [length_text fourDigits]
  cases pattern <;> rfl

theorem not_map_number_lt {time other : CivilTime} (timeYear : 0 ≤ time.year)
    (otherYear : 0 ≤ other.year) (notAfter : time.NotAfter other) {pattern : DatePattern}
    (listed : pattern ∈ yearFirst) :
    ¬ pattern.fields.map (DateField.number other) < pattern.fields.map (DateField.number time) := by
  unfold CivilTime.NotAfter CivilTime.DateBefore CivilTime.SameDate at notAfter
  simp only [yearFirst, List.mem_cons, List.not_mem_nil, or_false] at listed
  -- Each pattern shows its fields from the largest to the smallest, as far as it shows any.
  rcases listed with rfl | rfl | rfl | rfl | rfl | rfl <;>
    simp only [fields, List.map_cons, List.map_nil, DateField.number, List.cons_lt_cons_iff,
      lt_irrefl, false_or, and_false, or_false, true_and] <;>
    omega

/-- A date with the year in front is not behind that of a later instant. -/
theorem text_le_text {earlier later : Instant} (earlierYear : earlier.FourDigitYear)
    (laterYear : later.FourDigitYear) (le : earlier ≤ later) {pattern : DatePattern}
    (listed : pattern ∈ yearFirst) : pattern.text earlier ≤ pattern.text later := by
  have fields := not_map_number_lt earlierYear.1 laterYear.1 (Instant.civil_notAfter le) listed
  rw [← DateField.flatMap_text_lt_iff laterYear earlierYear] at fields
  exact not_lt.mp fields

/-- A date is written as long as its pattern is spelled, and is the spelling with the year, the year
of the century, the month, the day, the hour, the minute and the second in the place of the letters.
These are the fields of the instant in the Gregorian calendar and in UTC, with a leap second as the
second 60. Dates of the patterns that begin with the year stand in the order of time. -/
theorem text_filled_and_sorted :
    (∀ (context : Context) (draft : Draft) (pattern : DatePattern),
      (Token.directive (.date pattern)).render context draft =
        { draft with text := draft.text ++ String.ofList (pattern.text context.now) }) ∧
    (∀ now : Instant, now.FourDigitYear → ∀ pattern : DatePattern,
      (pattern.text now).length = pattern.spelling.length ∧
        pattern.text now = filled now.civil pattern.spelling.toList) ∧
    (∀ now : Instant, now.Shows now.civil ∧
      (now.seconds % 60 = 59 → 1000000000 ≤ now.nanos.val → now.civil.second = 60)) ∧
    ∀ earlier later : Instant, earlier.FourDigitYear → later.FourDigitYear → earlier ≤ later →
      ∀ pattern ∈ yearFirst, pattern.text earlier ≤ pattern.text later := by
  refine ⟨fun _ _ _ => rfl,
    fun now fourDigits pattern =>
      ⟨length_text_eq fourDigits pattern, text_eq_filled fourDigits pattern⟩,
    fun now => ⟨now.shows_civil, fun last leap => ?leapSecond⟩,
    fun _ _ earlierYear laterYear le _ => text_le_text earlierYear laterYear le⟩
  case leapSecond =>
    have second := now.shows_civil.second
    rw [if_neg (Nat.not_lt_of_le leap)] at second
    omega

theorem text_filled_and_sorted_leap_second :
    ∃ earlier later : Instant,
      earlier.FourDigitYear ∧ later.FourDigitYear ∧ earlier ≤ later ∧
      String.ofList (minuteStamp.text earlier) = "196912312359" ∧
      String.ofList (minuteStamp.text later) = "200002290000" ∧
      String.ofList (timeOfDay.text earlier) = "235960" ∧
      timeOfDay.text earlier = filled earlier.civil timeOfDay.spelling.toList ∧
      (earlier.seconds % 60 = 59 ∧ 1000000000 ≤ earlier.nanos.val ∧ earlier.civil.second = 60) ∧
      (minuteStamp ∈ yearFirst ∧ minuteStamp.text earlier ≤ minuteStamp.text later) := by
  let earlier : Instant := ⟨-1, 1000000000⟩
  let later : Instant := ⟨951782400, 0⟩
  obtain ⟨-, texts, seconds, sorted⟩ := text_filled_and_sorted
  have earlierYear : earlier.FourDigitYear := by decide
  have laterYear : later.FourDigitYear := by decide
  have le : earlier ≤ later := .inl (by decide)
  have last : earlier.seconds % 60 = 59 := by decide
  have leap : 1000000000 ≤ earlier.nanos.val := by decide
  have listed : minuteStamp ∈ yearFirst := by decide
  exact ⟨earlier, later, earlierYear, laterYear, le, by decide, by decide, by decide,
    (texts earlier earlierYear timeOfDay).2, ⟨last, leap, (seconds earlier).2 last leap⟩,
    ⟨listed, sorted earlier later earlierYear laterYear le minuteStamp listed⟩⟩

end DatePattern
end InventoryIds
