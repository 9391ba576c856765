import TemplateQuery.DateTime
import TemplateQuery.Text.Blank

/-! Reading dates with times. With a zone every field has a fixed width; without one the fields may be
shorter, blanks may stand before them and the year may have a sign. -/

set_option autoImplicit false

namespace TemplateQuery

open Number

namespace DateTime

def number? (least most : Nat) (cs : List Char) : Option (Nat × List Char) :=
  let digits := (cs.take most).takeWhile Char.isDigit
  if digits.length < least then none else some (ofDigits digits, cs.drop digits.length)

def literal? (c : Char) : List Char → Option (List Char)
  | d :: cs => if d = c then some cs else none
  | [] => none

/-- The nanoseconds after a point, if there is one. -/
def fraction? : List Char → Option (Nat × List Char)
  | '.' :: cs =>
    let digits := cs.takeWhile Char.isDigit
    -- At least one digit is needed, and those after the ninth do not count.
    let kept := digits.take 9
    if digits.isEmpty then none
    else some (ofDigits kept * 10 ^ (9 - kept.length), cs.drop digits.length)
  | cs => some (0, cs)

def zone? : List Char → Option Int
  | ['Z'] | ['z'] => some 0
  | sign :: rest => do
    let (hours, rest) ← number? 2 2 rest
    let (minutes, rest) ← number? 2 2 (← literal? ':' rest)
    if !rest.isEmpty || 23 < hours || 59 < minutes then none
    else if sign == '+' then some (hours * 3600 + minutes * 60 : Nat)
    else if sign == '-' || sign == '−' then some (-(hours * 3600 + minutes * 60 : Nat))
    else none
  | [] => none

def isSeparator (c : Char) : Bool := c == 'T' || c == 't' || c == ' '

def readZoned? (cs : List Char) : Option DateTime := do
  let (year, cs) ← number? 4 4 cs
  let (month, cs) ← number? 2 2 (← literal? '-' cs)
  let (day, cs) ← number? 2 2 (← literal? '-' cs)
  if !(cs.head?.any isSeparator) then none
  let (hour, cs) ← number? 2 2 cs.tail
  let (minute, cs) ← number? 2 2 (← literal? ':' cs)
  let (second, cs) ← number? 2 2 (← literal? ':' cs)
  let (nano, cs) ← fraction? cs
  let offset ← zone? cs
  return ⟨← Date.ofFields? year month day, ← TimeOfDay.ofFields? hour minute second nano, some offset⟩

/-- A year with a sign has any number of digits, one without at most four. -/
def year? : List Char → Option (Int × List Char)
  | '-' :: cs => (number? 1 cs.length cs).map fun (n, rest) => (-(n : Int), rest)
  | '+' :: cs => (number? 1 cs.length cs).map fun (n, rest) => ((n : Int), rest)
  | cs => (number? 1 4 cs).map fun (n, rest) => ((n : Int), rest)

def field? (cs : List Char) : Option (Nat × List Char) := number? 1 2 (Text.trimStart cs)

def readLocal? (cs : List Char) : Option DateTime := do
  let (year, cs) ← year? (Text.trimStart cs)
  let (month, cs) ← field? (← literal? '-' cs)
  let (day, cs) ← field? (← literal? '-' cs)
  let (hour, cs) ← field? (← literal? 'T' cs)
  let (minute, cs) ← field? (← literal? ':' cs)
  let (second, cs) ← field? (← literal? ':' cs)
  let (nano, cs) ← fraction? cs
  if !cs.isEmpty then none
  return ⟨← Date.ofFields? year month day, ← TimeOfDay.ofFields? hour minute second nano, none⟩

def read? (cs : List Char) : Option DateTime := (readZoned? cs).or (readLocal? cs)

end DateTime

end TemplateQuery
