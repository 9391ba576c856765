import Mathlib.Data.Rat.Floor
import TemplateQuery.Proofs.Eval.Aliases

/-! Decimals brought to whole numbers. The power of ten between the digits and the number is taken from the low bits of
the scale, so the three roundings are exact wherever the scale has no other bits; what they do elsewhere is told apart
exactly. -/

set_option autoImplicit false

namespace TemplateQuery

open Vocabulary

namespace Decimal

def Narrow (d : Decimal) : Prop := d.scale.toInt.natAbs < 2 ^ 32

/-- A number whose floor does not depend on the bits of the scale that are lost: zero, or one between minus one and one
with the power of ten that is left. -/
def Spared (d : Decimal) : Prop :=
  if d.scale ≤ 0 then d.digits = 0 else -(d.shift : Int) ≤ d.digits ∧ d.digits < d.shift

theorem shift_pos (d : Decimal) : 0 < d.shift := Nat.pow_pos (by decide)

theorem shift_of_narrow {d : Decimal} (narrow : d.Narrow) : d.shift = 10 ^ d.scale.toInt.natAbs := by
  rw [shift, Nat.mod_eq_of_lt narrow]

theorem exists_lost {d : Decimal} (wide : ¬ d.Narrow) :
    ∃ lost : Nat, 1 < lost ∧ 10 ^ d.scale.toInt.natAbs = d.shift * lost := by
  have split : d.scale.toInt.natAbs = d.scale.toInt.natAbs % 2 ^ 32 + 2 ^ 32 * (d.scale.toInt.natAbs / 2 ^ 32) :=
    (Nat.mod_add_div _ _).symm
  refine ⟨10 ^ (2 ^ 32 * (d.scale.toInt.natAbs / 2 ^ 32)), ?_, ?_⟩
  · have some : d.scale.toInt.natAbs / 2 ^ 32 ≠ 0 := by
      unfold Narrow at wide
      omega
    exact Nat.one_lt_pow (by omega) (by decide)
  · conv_lhs => rw [split, Nat.pow_add]
    rfl

/-! ## The floor -/

theorem corrected_tdiv (n : Int) {m : Int} (positive : 0 < m) :
    (if n < 0 && n.tdiv m * m != n then n.tdiv m - 1 else n.tdiv m) = n / m := by
  by_cases divides : m ∣ n
  · rw [Int.tdiv_mul_cancel divides, Int.tdiv_eq_ediv]
    simp [divides]
  · have remains : n.tdiv m * m ≠ n := fun whole => divides ⟨n.tdiv m, by rw [mul_comm, whole]⟩
    by_cases negative : n < 0
    · rw [if_pos (by simp [negative, remains]), Int.tdiv_eq_ediv, if_neg (by omega), Int.sign_eq_one_of_pos positive]
      omega
    · rw [if_neg (by simp [negative]), Int.tdiv_eq_ediv_of_nonneg (by omega)]

def wholePart (d : Decimal) : Int := if d.scale ≤ 0 then d.digits * d.shift else d.digits / d.shift

theorem floor_eq (d : Decimal) : d.floor = if d.scale = .minValue then none else some d.wholePart := by
  have positive : (0 : Int) < d.shift := by exact_mod_cast d.shift_pos
  unfold floor wholePart
  dsimp only
  rw [corrected_tdiv d.digits positive]
  split
  · rfl
  · split <;> rfl

theorem floor_value_of_whole {d : Decimal} (whole : d.scale ≤ 0) :
    ⌊d.value⌋ = d.digits * (10 ^ d.scale.toInt.natAbs : Nat) := by
  have exponent : -d.scale.toInt = (d.scale.toInt.natAbs : Int) := by
    rw [Int64.le_iff_toInt_le, Int64.toInt_zero] at whole
    omega
  have integral : d.value = ((d.digits * (10 ^ d.scale.toInt.natAbs : Nat) : Int) : ℚ) := by
    rw [value, scaled, exponent, zpow_natCast]
    push_cast
    rfl
  rw [integral, Int.floor_intCast]

theorem floor_value_of_fraction {d : Decimal} (fraction : ¬ d.scale ≤ 0) :
    ⌊d.value⌋ = d.digits / ((10 ^ d.scale.toInt.natAbs : Nat) : Int) := by
  have exponent : -d.scale.toInt = -(d.scale.toInt.natAbs : Int) := by
    rw [Int64.le_iff_toInt_le, Int64.toInt_zero] at fraction
    omega
  have quotient : d.value = (d.digits : ℚ) / (10 ^ d.scale.toInt.natAbs : Nat) := by
    rw [value, scaled, exponent, zpow_neg, zpow_natCast, div_eq_mul_inv]
    push_cast
    rfl
  rw [quotient, Rat.floor_intCast_div_natCast]

theorem wholePart_of_narrow {d : Decimal} (narrow : d.Narrow) : d.wholePart = ⌊d.value⌋ := by
  unfold wholePart
  rw [shift_of_narrow narrow]
  split
  · next whole => exact (floor_value_of_whole whole).symm
  · next fraction => exact (floor_value_of_fraction fraction).symm

theorem ediv_eq_self_iff {n m : Int} (more : 1 < m) : n = n / m ↔ -1 ≤ n ∧ n < 1 := by
  have low : m * (n / m) ≤ n := Int.mul_ediv_self_le (by omega)
  have high : n < m * (n / m) + m := Int.lt_mul_ediv_self_add (by omega)
  constructor
  · intro same
    rw [← same] at low high
    constructor <;> nlinarith
  · rintro ⟨below, above⟩
    obtain rfl | rfl : n = -1 ∨ n = 0 := by omega
    · exact (Int.ediv_eq_neg_one_of_neg_of_le (by omega) (by omega)).symm
    · simp

/-- It is the largest integer not above the number unless bits of the scale are lost that matter. -/
theorem wholePart_eq_iff (d : Decimal) : d.wholePart = ⌊d.value⌋ ↔ d.Narrow ∨ d.Spared := by
  by_cases narrow : d.Narrow
  · exact iff_of_true (wholePart_of_narrow narrow) (.inl narrow)
  rw [or_iff_right narrow]
  obtain ⟨lost, more, power⟩ := exists_lost narrow
  have positive : (0 : Int) < d.shift := by exact_mod_cast d.shift_pos
  unfold wholePart Spared
  split
  · next whole =>
    rw [floor_value_of_whole whole, power]
    -- The digits are multiplied by the lost factor, which is more than one: only zero does not show it.
    constructor
    · intro same
      rw [Nat.cast_mul] at same
      have cancelled : d.digits * d.shift * (lost - 1) = 0 := by linarith
      have others : (d.shift : Int) * (lost - 1) ≠ 0 := by
        have more : (1 : Int) < lost := by exact_mod_cast more
        exact mul_ne_zero positive.ne' (by omega)
      rw [mul_assoc] at cancelled
      exact (mul_eq_zero.mp cancelled).resolve_right others
    · intro zero
      simp [zero]
  · next fraction =>
    -- The digits are divided by the power that is left, and then the quotient by the lost factor.
    rw [floor_value_of_fraction fraction, power, Nat.cast_mul, ← Int.ediv_ediv_of_nonneg positive.le,
      ediv_eq_self_iff (by exact_mod_cast more), Int.le_ediv_iff_mul_le positive, Int.ediv_lt_iff_lt_mul positive]
    simp

end Decimal

namespace Value.Rounding

def exact : Rounding → ℚ → Int
  | floor, q => ⌊q⌋
  | ceil, q => ⌈q⌉
  | half, q => ⌊q + 1 / 2⌋

def floored : Rounding → Decimal → Decimal
  | floor, d => d
  | ceil, d => d.neg
  | half, d => d.add ⟨5, 1⟩

def function : Rounding → Function
  | floor => .floor
  | ceil => .ceil
  | half => .round

def restored : Rounding → Int → Int
  | ceil, n => -n
  | _, n => n

theorem onDecimal_eq (r : Rounding) (d : Decimal) : r.onDecimal d = (r.floored d).floor.map r.restored := by
  cases r with
  | ceil => rfl
  | floor => exact Option.map_id'.symm
  | half => exact Option.map_id'.symm

theorem exact_eq (r : Rounding) (d : Decimal) : r.exact d.value = r.restored ⌊(r.floored d).value⌋ := by
  cases r with
  | floor => rfl
  | ceil => rw [exact, floored, restored, Decimal.value_neg, Int.floor_neg, neg_neg]
  | half =>
    have half : Decimal.value ⟨5, 1⟩ = 1 / 2 := by
      show Decimal.scaled 5 1 = 1 / 2
      norm_num [Decimal.scaled]
    rw [exact, floored, Decimal.value_add, half]
    rfl

theorem restored_inj {r : Rounding} {m n : Int} : r.restored m = r.restored n ↔ m = n := by
  cases r with
  | ceil => exact neg_inj
  | floor => exact Iff.rfl
  | half => exact Iff.rfl

/-- A decimal is rounded exactly unless bits of the scale are lost that matter to the decimal whose floor is taken; and
not at all if that has the least scale. -/
theorem onDecimal_cases (r : Rounding) (d : Decimal) :
    (r.floored d).scale = .minValue ∧ r.onDecimal d = none ∨
    (r.floored d).scale ≠ .minValue ∧ ∃ n, r.onDecimal d = some n ∧
      (n = r.exact d.value ↔ (r.floored d).Narrow ∨ (r.floored d).Spared) := by
  rw [onDecimal_eq, Decimal.floor_eq]
  by_cases least : (r.floored d).scale = .minValue
  · exact .inl ⟨least, by rw [if_pos least, Option.map_none]⟩
  · refine .inr ⟨least, _, by rw [if_neg least, Option.map_some], ?_⟩
    rw [exact_eq, restored_inj, Decimal.wholePart_eq_iff]

end Value.Rounding

open Value

theorem Builtin.call_rounding (r : Rounding) (c : Context) (args : Arguments) :
    Builtin.call c r.function args = Builtin.numeric r.function (round r.function r) args := by
  cases r <;> rfl

theorem Expression.eval_rounding {c : Context} {e : Expression} {draws draws' : Draws} {d : Decimal}
    (gives : e.eval c draws = some (.ok (.decimal d), draws')) (r : Rounding) :
    (Expression.call r.function [e]).eval c draws =
      (r.onDecimal d).map fun n => (.ok (.decimal (.ofInt n)), draws') := by
  rw [eval_call (by cases r <;> simp [Rounding.function]), Builtin.call_rounding, evalEach, evalEach]
  refine (Eval.bind_of_ok gives _).trans ?_
  show Option.map _ ((r.onDecimal d).map _) = _
  rw [Option.map_map]
  rfl

/-- A decimal is rounded down, up or to the nearest integer, and the result is a decimal of scale zero. It is the exact
one unless bits of the scale are lost that matter to the decimal whose floor is taken; where that has the least scale,
there is no outcome. -/
theorem Expression.rounds_exactly_iff (c : Context) (e : Expression) (draws draws' : Draws) (d : Decimal)
    (gives : e.eval c draws = some (.ok (.decimal d), draws')) (r : Rounding) :
    ((r.floored d).scale = .minValue → (Expression.call r.function [e]).eval c draws = none) ∧
    ((r.floored d).scale ≠ .minValue → ∃ n : Int,
      (Expression.call r.function [e]).eval c draws = some (.ok (.decimal ⟨n, 0⟩), draws') ∧
      (n = r.exact d.value ↔ (r.floored d).Narrow ∨ (r.floored d).Spared)) := by
  rw [eval_rounding gives]
  rcases r.onDecimal_cases d with ⟨least, none⟩ | ⟨other, n, some, exactly⟩
  · exact ⟨fun _ => by rw [none]; rfl, fun other => absurd least other⟩
  · exact ⟨fun least => absurd least other, fun _ => ⟨n, by rw [some]; rfl, exactly⟩⟩

def minusTwoAndAHalf : Expression := .term (.typed "-2.5" xsdDecimal)

/-- Five behind so many zeros that the low bits of the scale are none. -/
def scarcelyAnything : Expression := .term (.typed "5E-4294967296" xsdDecimal)

def vastZero : Expression := .term (.typed "0E9223372036854775808" xsdDecimal)

/-- Minus two and a half is rounded exactly all three ways. Next to nothing has the floor five, and zero may have
none. -/
theorem Expression.rounds_exactly_iff_halves :
    (Expression.call .floor [minusTwoAndAHalf]).eval newYear {} =
      some (.ok (.decimal ⟨⌊Decimal.value ⟨-25, 1⟩⌋, 0⟩), {}) ∧
    (Expression.call .ceil [minusTwoAndAHalf]).eval newYear {} =
      some (.ok (.decimal ⟨⌈Decimal.value ⟨-25, 1⟩⌉, 0⟩), {}) ∧
    (Expression.call .round [minusTwoAndAHalf]).eval newYear {} =
      some (.ok (.decimal ⟨⌊Decimal.value ⟨-25, 1⟩ + 1 / 2⌋, 0⟩), {}) ∧
    (Expression.call .floor [scarcelyAnything]).eval newYear {} = some (.ok (.decimal ⟨5, 0⟩), {}) ∧
    5 ≠ ⌊Decimal.value ⟨5, 4294967296⟩⌋ ∧
    (Expression.call .floor [vastZero]).eval newYear {} = none := by
  have halves : minusTwoAndAHalf.eval newYear {} = some (.ok (.decimal ⟨-25, 1⟩), {}) := by rfl
  have little : scarcelyAnything.eval newYear {} = some (.ok (.decimal ⟨5, 4294967296⟩), {}) := by rfl
  have vast : vastZero.eval newYear {} = some (.ok (.decimal ⟨0, .minValue⟩), {}) := by rfl
  have narrow : ((1 : Int64).toInt).natAbs < 2 ^ 32 := by decide
  obtain ⟨-, down⟩ := rounds_exactly_iff newYear minusTwoAndAHalf {} {} _ halves .floor
  obtain ⟨-, up⟩ := rounds_exactly_iff newYear minusTwoAndAHalf {} {} _ halves .ceil
  obtain ⟨-, nearest⟩ := rounds_exactly_iff newYear minusTwoAndAHalf {} {} _ halves .half
  obtain ⟨-, lost⟩ := rounds_exactly_iff newYear scarcelyAnything {} {} _ little .floor
  obtain ⟨stops, -⟩ := rounds_exactly_iff newYear vastZero {} {} _ vast .floor
  obtain ⟨n, floored, floor⟩ := down (by decide)
  obtain ⟨m, raised, ceil⟩ := up (by decide)
  obtain ⟨k, rounded, half⟩ := nearest (by decide)
  obtain ⟨l, wrong, exactly⟩ := lost (by decide)
  have five : (Expression.call .floor [scarcelyAnything]).eval newYear {} = some (.ok (.decimal ⟨5, 0⟩), {}) := by rfl
  obtain rfl : l = 5 := by
    have same := wrong.symm.trans five
    simp only [Option.some_inj, Prod.mk.injEq, Except.ok.injEq, Value.decimal.injEq, Decimal.mk.injEq] at same
    exact same.1.1
  refine ⟨?_, ?_, ?_, five, exactly.not.mpr ?_, stops rfl⟩
  · rw [floor.mpr (.inl narrow)] at floored
    exact floored
  · rw [ceil.mpr (.inl narrow)] at raised
    exact raised
  · rw [half.mpr (.inl narrow)] at rounded
    exact rounded
  · show ¬ ((4294967296 : Int64).toInt.natAbs < 2 ^ 32 ∨ Decimal.Spared ⟨5, 4294967296⟩)
    rw [not_or]
    exact ⟨by decide, by simp [Decimal.Spared, Decimal.shift]⟩

end TemplateQuery
