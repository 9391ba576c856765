import TemplateQuery.Number.Digits
import TemplateQuery.Text.Search

/-! Decimal numbers: an integer of digits and a scale of 64 bits, together `digits / 10 ^ scale`.
Several pairs may denote one number. Sums and products are exact; a quotient keeps at most a hundred
significant digits unless its whole part needs more. What has no scale of 64 bits does not exist. -/

set_option autoImplicit false

namespace TemplateQuery

open Number

structure Decimal where
  digits : Int
  scale : Int64
  deriving DecidableEq, Repr, Inhabited

namespace Decimal

def ofInt (n : Int) : Decimal := ⟨n, 0⟩

def ofScale? (digits scale : Int) : Option Decimal :=
  if -2 ^ (63 : Nat) ≤ scale ∧ scale < 2 ^ (63 : Nat) then some ⟨digits, .ofInt scale⟩ else none

def isZero (d : Decimal) : Bool := d.digits == 0

def digitsAt (d : Decimal) (scale : Int64) : Int := d.digits * 10 ^ (scale.toInt - d.scale.toInt).toNat

def neg (d : Decimal) : Decimal := ⟨-d.digits, d.scale⟩

def abs (d : Decimal) : Decimal := ⟨d.digits.natAbs, d.scale⟩

def add (a b : Decimal) : Decimal :=
  let scale := max a.scale b.scale
  ⟨a.digitsAt scale + b.digitsAt scale, scale⟩

def sub (a b : Decimal) : Decimal := a.add b.neg

def mul (a b : Decimal) : Option Decimal := ofScale? (a.digits * b.digits) (a.scale.toInt + b.scale.toInt)

def order (a b : Decimal) : Ordering :=
  let scale := max a.scale b.scale
  compare (a.digitsAt scale) (b.digitsAt scale)

/-- The most significant digits that a quotient is extended to. -/
def precision : Nat := 100

/-- The least power of ten that brings `num` up to `den`, and `num` times it. -/
def raiseTo (den : Nat) (num power : Nat) : Nat → Nat × Nat
  | 0 => (num, power)
  | fuel + 1 => if num < den then raiseTo den (num * 10) (power + 1) fuel else (num, power)

/-- Append digits of the quotient while something remains; the last digit is rounded half up.
Answers the digits and how many were appended. -/
def extend (den quotient remainder appended : Nat) : Nat → Nat × Nat
  | 0 => (if 10 * remainder / den < 5 then quotient else quotient + 1, appended)
  | count + 1 =>
    if remainder == 0 then (quotient, appended)
    else extend den (quotient * 10 + 10 * remainder / den) (10 * remainder % den) (appended + 1) count

def divMagnitudes (num den : Nat) : Nat × Nat :=
  let (num, power) := raiseTo den num 0 (natText den).length
  let (digits, appended) := extend den (num / den) (num % den) 0 (precision - (natText (num / den)).length)
  (digits, power + appended)

/-- The quotient by a divisor other than zero. -/
def div (a b : Decimal) : Option Decimal :=
  if a.isZero || b.order (ofInt 1) == .eq then some a
  else do
    -- The difference of the scales has to fit before digits are appended.
    let one ← ofScale? 1 (a.scale.toInt - b.scale.toInt)
    if a.digits == b.digits then return one
    let (digits, places) := divMagnitudes a.digits.natAbs b.digits.natAbs
    ofScale? (if (a.digits < 0) == (b.digits < 0) then digits else -(digits : Int)) (one.scale.toInt + places)

/-- The power of ten between the digits and the number; only the low 32 bits of the scale count. -/
def shift (d : Decimal) : Nat := 10 ^ (d.scale.toInt.natAbs % 2 ^ (32 : Nat))

/-- The largest integer not above the number. The least scale cannot be negated. -/
def floor (d : Decimal) : Option Int :=
  if d.scale = .minValue then none
  else if d.scale ≤ 0 then some (d.digits * d.shift)
  else
    -- Cut towards zero, so that a negative one with a remainder is corrected.
    let quotient := d.digits.tdiv d.shift
    some (if d.digits < 0 && quotient * d.shift != d.digits then quotient - 1 else quotient)

def ceil (d : Decimal) : Option Int := d.neg.floor.map (- ·)

/-- The nearest integer, halves up. -/
def round (d : Decimal) : Option Int := (d.add ⟨5, 1⟩).floor

def truncate (d : Decimal) : Int :=
  if d.scale ≤ 0 then d.digits * 10 ^ d.scale.toInt.natAbs else d.digits.tdiv (10 ^ d.scale.toInt.natAbs)

def trailingZeros (n : Nat) : Nat := ((natText n).reverse.takeWhile (· == '0')).length

/-- The same number without a zero at the end of its digits; zero has scale zero. -/
def normalForm (d : Decimal) : Int × Int :=
  if d.isZero then (0, 0)
  else
    let zeros := trailingZeros d.digits.natAbs
    (d.digits / 10 ^ zeros, d.scale.toInt - zeros)

def normalize (d : Decimal) : Option Decimal := ofScale? d.normalForm.1 d.normalForm.2

/-- Digits written out, with the point so many places before their end: no exponent, and always a
fraction. -/
def spelled (digits scale : Int) : List Char :=
  let sign := if digits < 0 then ['-'] else []
  let magnitude := natText digits.natAbs
  if scale ≤ 0 then
    sign ++ magnitude ++ (if digits = 0 then [] else List.replicate scale.natAbs '0') ++ ['.', '0']
  else
    let places := scale.natAbs
    let run := List.replicate (places + 1 - magnitude.length) '0' ++ magnitude
    sign ++ run.take (run.length - places) ++ '.' :: run.drop (run.length - places)

def text (d : Decimal) : Option (List Char) := do
  let n ← d.normalize
  -- The zeros behind the digits are counted by the negated scale, and the least one cannot be negated.
  if n.scale = .minValue then none else some (spelled n.digits n.scale.toInt)

def isExponentMark (c : Char) : Bool := c == 'e' || c == 'E'

/-- The digits without the point, and the places after it. -/
def cutPoint (cs : List Char) : List Char × Nat :=
  match Text.splitAt? (· == '.') cs with
  -- Underscores are no places.
  | some (whole, fraction) => (whole ++ fraction, (fraction.filter (· != '_')).length)
  | none => (cs, 0)

def read? (cs : List Char) : Option Decimal := do
  let (base, exponent) ← match Text.splitAt? isExponentMark cs with
    | some (base, written) => (readExponent? written).map fun e => (base, e)
    | none => some (cs, 0)
  let (digits, places) := cutPoint base
  ofScale? (← readInteger? digits) (places - exponent)

end Decimal

end TemplateQuery
