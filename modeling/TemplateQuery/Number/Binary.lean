import TemplateQuery.Number.Digits

/-! Binary floating-point numbers. A format fixes the bits of a significand, the unit in which all its
finite numbers are whole, and their bound; a finite number is a sign and a whole number of units. Every
result is the exact one rounded to the nearest number of the format, ties to the even significand. -/

set_option autoImplicit false

namespace TemplateQuery

/-- A unit is `2 ^ -scale`, and magnitudes stay below `2 ^ top` units. -/
structure Format where
  precision : Nat
  scale : Nat
  top : Nat
  precision_pos : 0 < precision := by decide

namespace Format

def double : Format where
  precision := 53
  scale := 1074
  top := 2098

def single : Format where
  precision := 24
  scale := 149
  top := 277

def bits (n : Nat) : Nat := if n = 0 then 0 else n.log2 + 1

theorem lt_two_pow_bits (n : Nat) : n < 2 ^ bits n := by
  unfold bits
  split
  · simp_all
  · exact Nat.lt_log2_self

theorem bits_le {n k : Nat} (h : n < 2 ^ k) : bits n ≤ k := by
  unfold bits
  split
  · omega
  · next hn => exact (Nat.log2_lt hn).2 h

structure Holds (f : Format) (units : Nat) : Prop where
  significant : 2 ^ (bits units - f.precision) ∣ units
  bounded : units < 2 ^ f.top

/-- The quotient to the nearest whole number, ties to the even one. -/
def roundDiv (num den : Nat) : Nat :=
  let q := num / den
  match compare (2 * (num % den)) den with
  | .lt => q
  | .gt => q + 1
  | .eq => if q % 2 = 0 then q else q + 1

theorem roundDiv_le (num den : Nat) : roundDiv num den ≤ num / den + 1 := by
  unfold roundDiv
  dsimp only
  split <;> (try split) <;> omega

def excess (f : Format) (whole : Nat) : Nat := bits whole - f.precision

/-- The quotient rounded to the precision, without a bound. -/
def nearest (f : Format) (num den : Nat) : Nat :=
  let cut := 2 ^ f.excess (num / den)
  roundDiv num (den * cut) * cut

theorem significant_mul {f : Format} {m k : Nat} (h : m ≤ 2 ^ f.precision) :
    2 ^ (bits (m * 2 ^ k) - f.precision) ∣ m * 2 ^ k := by
  have pos := f.precision_pos
  rcases Nat.lt_or_eq_of_le h with lt | eq
  · have fits : bits (m * 2 ^ k) ≤ f.precision + k := by
      apply bits_le
      rw [Nat.pow_add]
      exact Nat.mul_lt_mul_of_pos_right lt (Nat.two_pow_pos k)
    exact Nat.dvd_trans (Nat.pow_dvd_pow 2 (by omega)) (Nat.dvd_mul_left _ _)
  · subst eq
    rw [← Nat.pow_add]
    apply Nat.pow_dvd_pow
    have fits : bits (2 ^ (f.precision + k)) ≤ f.precision + k + 1 := by
      apply bits_le
      exact Nat.pow_lt_pow_right (by omega) (by omega)
    omega

theorem significant_nearest (f : Format) (num den : Nat) :
    2 ^ (bits (f.nearest num den) - f.precision) ∣ f.nearest num den := by
  apply significant_mul
  refine Nat.le_trans (roundDiv_le _ _) ?_
  rw [← Nat.div_div_eq_div_mul]
  have lt := lt_two_pow_bits (num / den)
  have le : bits (num / den) ≤ f.precision + f.excess (num / den) := by unfold excess; omega
  have : num / den / 2 ^ f.excess (num / den) < 2 ^ f.precision := by
    rw [Nat.div_lt_iff_lt_mul (Nat.two_pow_pos _), ← Nat.pow_add]
    exact Nat.lt_of_lt_of_le lt (Nat.pow_le_pow_right (by omega) le)
  omega

end Format

inductive Binary (f : Format) where
  | nan
  | infinite (negative : Bool)
  | finite (negative : Bool) (units : Nat) (holds : f.Holds units)
  deriving DecidableEq

abbrev Double : Type := Binary Format.double

abbrev Single : Type := Binary Format.single

namespace Binary

variable {f : Format}

/-- The number nearest to `num / den` units. -/
def ofUnits (negative : Bool) (num den : Nat) : Binary f :=
  if h : f.nearest num den < 2 ^ f.top then .finite negative (f.nearest num den) ⟨f.significant_nearest num den, h⟩
  -- Beyond the bound.
  else .infinite negative

def ofRatio (negative : Bool) (num den : Nat) : Binary f := ofUnits negative (num * 2 ^ f.scale) den

def zero (negative : Bool) : Binary f := ofUnits negative 0 1

def ofInt (n : Int) : Binary f := ofRatio (n < 0) n.natAbs 1

def isNaN : Binary f → Bool
  | .nan => true
  | _ => false

def isZero : Binary f → Bool
  | .finite _ 0 _ => true
  | _ => false

def neg : Binary f → Binary f
  | .nan => .nan
  | .infinite s => .infinite !s
  | .finite s u h => .finite (!s) u h

def abs : Binary f → Binary f
  | .nan => .nan
  | .infinite _ => .infinite false
  | .finite _ u h => .finite false u h

def signed (negative : Bool) (units : Nat) : Int := if negative then -(units : Int) else units

/-- Opposite numbers add up to the positive zero. -/
def add : Binary f → Binary f → Binary f
  | .nan, _ | _, .nan => .nan
  | .infinite s, .infinite t => if s == t then .infinite s else .nan
  | .infinite s, _ | _, .infinite s => .infinite s
  | .finite s u _, .finite t v _ =>
    let sum := signed s u + signed t v
    ofUnits (if sum = 0 then s && t else sum < 0) sum.natAbs 1

def sub (a b : Binary f) : Binary f := a.add b.neg

def mul : Binary f → Binary f → Binary f
  | .nan, _ | _, .nan => .nan
  | .infinite s, .infinite t => .infinite (s != t)
  | .infinite s, .finite t u _ | .finite t u _, .infinite s => if u = 0 then .nan else .infinite (s != t)
  | .finite s u _, .finite t v _ => ofUnits (s != t) (u * v) (2 ^ f.scale)

/-- Zero by zero has no value; any other number by zero is infinite. -/
def div : Binary f → Binary f → Binary f
  | .nan, _ | _, .nan => .nan
  | .infinite _, .infinite _ => .nan
  | .infinite s, .finite t _ _ => .infinite (s != t)
  | .finite s _ _, .infinite t => zero (s != t)
  | .finite s u _, .finite t v _ =>
    if v = 0 then if u = 0 then .nan else .infinite (s != t)
    else ofRatio (s != t) u v

/-- The order of two numbers; nothing compares with the number that is none. -/
def order? : Binary f → Binary f → Option Ordering
  | .nan, _ | _, .nan => none
  | .infinite s, .infinite t => some (compare t.toNat s.toNat)
  | .infinite s, .finite _ _ _ => some (if s then .lt else .gt)
  | .finite _ _ _, .infinite t => some (if t then .gt else .lt)
  | .finite s u _, .finite t v _ => some (compare (signed s u) (signed t v))

/-- A whole number that keeps the sign it comes from when it is zero. -/
def whole (negative : Bool) (n : Int) : Binary f :=
  ofRatio (if n = 0 then negative else n < 0) n.natAbs 1

def floor : Binary f → Binary f
  | .finite s u _ => whole s (signed s u / (2 ^ f.scale : Nat))
  | b => b

def ceil (b : Binary f) : Binary f := b.neg.floor.neg

def truncate? : Binary f → Option Int
  | .finite s u _ => some (signed s (u / 2 ^ f.scale))
  | _ => none

/-- The nearest integer to a finite number, halves away from zero. -/
def nearest? : Binary f → Option Int
  | .finite s u _ => some (signed s ((2 * u + 2 ^ f.scale) / (2 * 2 ^ f.scale)))
  | _ => none

def convert {g : Format} : Binary f → Binary g
  | .nan => .nan
  | .infinite s => .infinite s
  | .finite s u _ => ofRatio s u (2 ^ f.scale)

end Binary

end TemplateQuery
