import TemplateQuery.DateTime.Calendar
import TemplateQuery.Number.Digits

/-! Dates with a time of day, to the nanosecond, and with the time zone when one is known. The sixtieth
second of a minute is kept as such. -/

set_option autoImplicit false

namespace TemplateQuery

open Number

structure TimeOfDay where
  hour : Nat
  minute : Nat
  second : Nat
  nano : Nat
  valid : hour < 24 ∧ minute < 60 ∧ second ≤ 60 ∧ nano < 1000000000
  deriving DecidableEq

namespace TimeOfDay

def ofFields? (hour minute second nano : Nat) : Option TimeOfDay :=
  if h : hour < 24 ∧ minute < 60 ∧ second ≤ 60 ∧ nano < 1000000000 then some ⟨hour, minute, second, nano, h⟩
  else none

end TimeOfDay

structure DateTime where
  date : Date
  time : TimeOfDay
  /-- Seconds east of Greenwich. -/
  offset : Option Int
  deriving DecidableEq

/-- A point in time by day, second of the day and nanosecond; from the billionth nanosecond on it lies in
a leap second. -/
structure Instant where
  day : Int
  second : Nat
  nano : Nat
  deriving DecidableEq

namespace Instant

def order (a b : Instant) : Ordering :=
  ((compare a.day b.day).then (compare a.second b.second)).then (compare a.nano b.nano)

/-- A point in time moved by whole seconds. A leap second that is left behind becomes the second before
it when time goes on, and the second after it when time goes back. -/
def move (i : Instant) (seconds : Int) : Instant :=
  if seconds = 0 then i
  else
    let leap := 1000000000 ≤ i.nano
    let total := (i.second : Int) + seconds + (if leap && seconds < 0 then 1 else 0)
    ⟨i.day + total / 86400, (total % 86400).toNat, if leap then i.nano - 1000000000 else i.nano⟩

end Instant

namespace DateTime

def clock (t : DateTime) : Instant :=
  let leap := t.time.second = 60
  ⟨t.date.dayNumber, t.time.hour * 3600 + t.time.minute * 60 + (if leap then 59 else t.time.second),
    if leap then t.time.nano + 1000000000 else t.time.nano⟩

/-- The point in time; without a zone the clock is taken to be in Greenwich. -/
def instant (t : DateTime) : Instant := t.clock.move (-(t.offset.getD 0))

def epochDay : Int := 719468

def ofEpoch? (nanos : Int) : Option DateTime := do
  let seconds := nanos / 1000000000
  let (year, month, day) := Calendar.fieldsOf (epochDay + seconds / 86400)
  let second := (seconds % 86400).toNat
  let date ← Date.ofFields? year month day
  let time ← TimeOfDay.ofFields? (second / 3600) (second % 3600 / 60) (second % 60) (nanos % 1000000000).toNat
  return { date, time, offset := some 0 }

/-- Years outside four digits carry a sign. -/
def yearText (year : Int) : List Char :=
  if 0 ≤ year ∧ year ≤ 9999 then padded 4 year.natAbs
  else (if year < 0 then '-' else '+') :: padded 4 year.natAbs

/-- Three, six or nine places, as few as do; nothing for a whole second. -/
def fractionText (nano : Nat) : List Char :=
  if nano = 0 then []
  else if nano % 1000000 = 0 then '.' :: padded 3 (nano / 1000000)
  else if nano % 1000 = 0 then '.' :: padded 6 (nano / 1000)
  else '.' :: padded 9 nano

def clockText (year : Int) (month day hour minute second nano : Nat) : List Char :=
  yearText year ++ '-' :: padded 2 month ++ '-' :: padded 2 day ++ 'T' :: padded 2 hour ++ ':' :: padded 2 minute
    ++ ':' :: padded 2 second ++ fractionText nano

def offsetText (offset : Int) : List Char :=
  if offset = 0 then ['Z']
  else
    let seconds := offset.natAbs
    (if offset < 0 then '-' else '+') :: padded 2 (seconds / 3600) ++ ':' :: padded 2 (seconds % 3600 / 60)

def zoneText (offset : Option Int) : List Char :=
  match offset with
  | none => []
  | some seconds => offsetText seconds

def text (t : DateTime) : List Char :=
  clockText t.date.year t.date.month t.date.day t.time.hour t.time.minute t.time.second t.time.nano
    ++ zoneText t.offset

def durationText (offset : Int) : List Char :=
  if offset = 0 then ['P', 'T', '0', 'S']
  else
    let seconds := offset.natAbs
    let part (n : Nat) (unit : Char) := if n = 0 then [] else natText n ++ [unit]
    (if offset < 0 then ['-'] else []) ++ 'P' :: 'T' :: part (seconds / 3600) 'H' ++ part (seconds % 3600 / 60) 'M'

end DateTime

namespace Instant

def text (i : Instant) : List Char :=
  let (year, month, day) := Calendar.fieldsOf i.day
  let leap := 1000000000 ≤ i.nano
  DateTime.clockText year month day (i.second / 3600) (i.second % 3600 / 60)
    (if leap then i.second % 60 + 1 else i.second % 60) (if leap then i.nano - 1000000000 else i.nano)

end Instant

end TemplateQuery
