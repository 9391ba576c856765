/-! The Gregorian calendar, extended over all years in which dates are kept. Days are numbered from the
first of March of year zero. -/

set_option autoImplicit false

namespace TemplateQuery

namespace Calendar

def isLeap (year : Int) : Bool := year % 4 == 0 && (year % 100 != 0 || year % 400 == 0)

def daysIn (year : Int) : Nat → Nat
  | 2 => if isLeap year then 29 else 28
  | 4 | 6 | 9 | 11 => 30
  | _ => 31

def firstYear : Int := -262143

def lastYear : Int := 262142

def isDate (year : Int) (month day : Nat) : Bool :=
  firstYear ≤ year && year ≤ lastYear && 1 ≤ month && month ≤ 12 && 1 ≤ day && day ≤ daysIn year month

end Calendar

structure Date where
  year : Int
  month : Nat
  day : Nat
  valid : Calendar.isDate year month day = true
  deriving DecidableEq

namespace Date

def ofFields? (year : Int) (month day : Nat) : Option Date :=
  if h : Calendar.isDate year month day then some ⟨year, month, day, h⟩ else none

/-- Years and months are counted from March, so that a leap day ends its year. -/
def dayNumber (d : Date) : Int :=
  let year := if d.month ≤ 2 then d.year - 1 else d.year
  let month := (d.month + 9) % 12
  365 * year + year / 4 - year / 100 + year / 400 + ((153 * month + 2) / 5 + d.day - 1 : Nat)

end Date

namespace Calendar

def fieldsOf (number : Int) : Int × Nat × Nat :=
  let era := number / 146097
  let inEra := (number % 146097).toNat
  let year := (inEra - inEra / 1460 + inEra / 36524 - inEra / 146096) / 365
  let inYear := inEra - (365 * year + year / 4 - year / 100)
  let month := (5 * inYear + 2) / 153
  let day := inYear - (153 * month + 2) / 5 + 1
  let year := era * 400 + year
  if month < 10 then (year, month + 3, day) else (year + 1, month - 9, day)

end Calendar

end TemplateQuery
