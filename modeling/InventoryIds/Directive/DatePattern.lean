import InventoryIds.Fault

/-!
# Date patterns

The twelve ways of writing a date or a time of day, each with its spelling and its fields.
-/

namespace InventoryIds

/-- A field of a date, or a separator between fields. -/
inductive DateField where
  | year
  | shortYear
  | month
  | day
  | hour
  | minute
  | second
  | mark (c : Char)
deriving DecidableEq, Repr

inductive DatePattern where
  | year
  | shortYear
  | yearMonth
  | dashedYearMonth
  | compact
  | dashed
  | shortCompact
  | dayFirst
  | monthFirst
  | dotted
  | minuteStamp
  | timeOfDay
deriving DecidableEq, Repr

namespace DatePattern

/-- Every pattern, in the order in which patterns are listed and sorted. -/
def all : List DatePattern :=
  [year, shortYear, yearMonth, dashedYearMonth, compact, dashed, shortCompact, dayFirst,
    monthFirst, dotted, minuteStamp, timeOfDay]

def standard : DatePattern := compact

def spelling : DatePattern → String
  | year => "yyyy"
  | shortYear => "yy"
  | yearMonth => "yyyyMM"
  | dashedYearMonth => "yyyy-MM"
  | compact => "yyyyMMdd"
  | dashed => "yyyy-MM-dd"
  | shortCompact => "yyMMdd"
  | dayFirst => "ddMMyyyy"
  | monthFirst => "MMddyyyy"
  | dotted => "dd.MM.yyyy"
  | minuteStamp => "yyyyMMddHHmm"
  | timeOfDay => "HHmmss"

def fields : DatePattern → List DateField
  | year => [.year]
  | shortYear => [.shortYear]
  | yearMonth => [.year, .month]
  | dashedYearMonth => [.year, .mark '-', .month]
  | compact => [.year, .month, .day]
  | dashed => [.year, .mark '-', .month, .mark '-', .day]
  | shortCompact => [.shortYear, .month, .day]
  | dayFirst => [.day, .month, .year]
  | monthFirst => [.month, .day, .year]
  | dotted => [.day, .mark '.', .month, .mark '.', .year]
  | minuteStamp => [.year, .month, .day, .hour, .minute]
  | timeOfDay => [.hour, .minute, .second]

def rank (pattern : DatePattern) : Nat := all.idxOf pattern

def ofSpelling (text : String) : Except ArgumentIssue DatePattern :=
  match all.find? (·.spelling == text) with
  | some pattern => .ok pattern
  | none => .error (.unknownDatePattern text)

@[simp] theorem ofSpelling_spelling (pattern : DatePattern) :
    ofSpelling pattern.spelling = .ok pattern := by
  cases pattern <;> rfl

end DatePattern
end InventoryIds
