import TemplateQuery.Number.Decimal
import TemplateQuery.Number.Shortest

/-! Double-precision numbers: reading them, and passage from and to decimals. -/

set_option autoImplicit false

namespace TemplateQuery

open Number

namespace Binary

variable {f : Format}

def cutSign : List Char → Bool × List Char
  | '-' :: cs => (true, cs)
  | '+' :: cs => (false, cs)
  | cs => (false, cs)

def readSignificand? (cs : List Char) : Option (Nat × Nat) :=
  let (whole, fraction) := (Text.splitAt? (· == '.') cs).getD (cs, [])
  let digits := whole ++ fraction
  if !digits.isEmpty && digits.all Char.isDigit then some (ofDigits digits, fraction.length) else none

def readNumeral? (cs : List Char) : Option (Binary f) := do
  let (negative, cs) := cutSign cs
  let (significand, exponent) ← match Text.splitAt? Decimal.isExponentMark cs with
    | some (significand, written) => (readExponent? written).map fun e => (significand, e)
    | none => some (cs, 0)
  let (digits, places) ← readSignificand? significand
  return ofScientific negative digits (exponent - places)

def read? (cs : List Char) : Option (Binary f) :=
  match String.ofList cs with
  | "INF" | "+INF" => some (.infinite false)
  | "-INF" => some (.infinite true)
  | "NaN" => some .nan
  | _ => readNumeral? cs

/-- Digits beyond the first twenty-five or so do not count; they are dropped nineteen at a time. -/
def dropSurplus (digits : Nat) (scale : Int) : Nat → Nat × Int
  | 0 => (digits, scale)
  | fuel + 1 =>
    if 10 ^ (44 : Nat) ≤ digits then dropSurplus (digits / 10 ^ (19 : Nat)) (scale - 19) fuel else (digits, scale)

def ofDecimal (d : Decimal) : Binary f :=
  if d.scale = 0 then ofInt d.digits
  else if 0 < d.scale then
    let (digits, scale) := dropSurplus d.digits.natAbs d.scale.toInt (natText d.digits.natAbs).length
    ofScientific (d.digits < 0) digits (-scale)
  -- A product of two rounded factors.
  else (ofInt d.digits).mul (ofScientific false 1 (-d.scale.toInt))

def exactDecimal (units : Int) : Nat → Decimal
  | 0 => ⟨units, 0⟩
  | places + 1 =>
    if units % 2 = 0 then exactDecimal (units / 2) places else ⟨units * 5 ^ (places + 1), .ofNat (places + 1)⟩

def toDecimal? : Binary f → Option Decimal
  | .finite s u _ => some (exactDecimal (signed s u) f.scale)
  | _ => none

end Binary

end TemplateQuery
