import TemplateQuery.Number.Binary
import TemplateQuery.Number.Digits

/-! The fewest decimal digits that read back as a given binary number. The exact decimal expansion of
the number is cut after one digit, then after two, and so on; at each length the nearer of the two
neighbouring decimals is tried first, and of two equally near the larger. -/

set_option autoImplicit false

namespace TemplateQuery

open Number

structure Scientific where
  digits : Nat
  exponent : Int
  deriving DecidableEq, Repr

namespace Scientific

/-- The text `d.dddEx`, always with a fraction. -/
def text (s : Scientific) : List Char :=
  let written := natText s.digits
  let point := s.exponent + written.length - 1
  let kept := (written.reverse.dropWhile (· == '0')).reverse
  match kept with
  | [] => ['0', '.', '0', 'E', '0']
  | first :: rest => first :: '.' :: (if rest.isEmpty then ['0'] else rest) ++ 'E' :: intText point

end Scientific

namespace Binary

variable {f : Format}

/-- The number nearest to `digits * 10 ^ exponent`. -/
def ofScientific (negative : Bool) (digits : Nat) (exponent : Int) : Binary f :=
  -- Powers of ten far beyond the format decide the result without being computed.
  let limit : Int := f.scale + f.top
  let order := (natText digits).length + exponent
  if digits = 0 || order < -limit then zero negative
  else if limit < order then .infinite negative
  else if exponent < 0 then ofRatio negative digits (10 ^ exponent.natAbs)
  else ofRatio negative (digits * 10 ^ exponent.natAbs) 1

def neighbours (expansion dropped : Nat) : List Nat :=
  let low := expansion / 10 ^ dropped
  if expansion % 10 ^ dropped = 0 then [low]
  else if 10 ^ dropped ≤ 2 * (expansion % 10 ^ dropped) then [low + 1, low]
  else [low, low + 1]

/-- A neighbour of the exact expansion that rounds to the same number of units. -/
def readsBack (f : Format) (units dropped candidate : Nat) : Bool :=
  f.nearest (candidate * 10 ^ dropped) (5 ^ f.scale) == units

/-- Fewer and fewer digits are dropped until a neighbour reads back. -/
def shortestFrom (f : Format) (units expansion : Nat) : Nat → Nat × Nat
  | 0 => (expansion, 0)
  | dropped + 1 =>
    match (neighbours expansion (dropped + 1)).find? (readsBack f units (dropped + 1)) with
    | some candidate => (candidate, dropped + 1)
    | none => shortestFrom f units expansion dropped

def shortest (f : Format) (units : Nat) : Scientific :=
  -- The exact expansion of a unit has as many places as the format's scale.
  let expansion := units * 5 ^ f.scale
  let (digits, dropped) := shortestFrom f units expansion ((natText expansion).length - 1)
  ⟨digits, dropped - f.scale⟩

def text : Binary f → List Char
  | .nan => ['N', 'a', 'N']
  | .infinite s => (if s then ['-'] else []) ++ ['I', 'N', 'F']
  | .finite s u _ => (if s then ['-'] else []) ++ (shortest f u).text

end Binary

end TemplateQuery
