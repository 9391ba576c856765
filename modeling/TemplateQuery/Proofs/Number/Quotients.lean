import TemplateQuery.Proofs.Number.Decimals

/-! Quotients of decimals go by the numbers alone as long as the whole part of the quotient of their digits is not
longer than the precision: then both extend the same digits to the same length. -/

set_option autoImplicit false

namespace TemplateQuery

open Number

namespace Decimal

/-! ## Digits of a quotient -/

theorem raiseTo_shift (den num power fuel : Nat) :
    raiseTo den num (power + 1) fuel = ((raiseTo den num power fuel).1, (raiseTo den num power fuel).2 + 1) := by
  induction fuel generalizing num power with
  | zero => rfl
  | succ fuel ih =>
    unfold raiseTo
    split
    · exact ih _ _
    · rfl

theorem raiseTo_of_le {den num : Nat} (up : den ≤ num) (power fuel : Nat) :
    raiseTo den num power fuel = (num, power) := by
  cases fuel with
  | zero => rfl
  | succ fuel => rw [raiseTo, if_neg (by omega)]

theorem raiseTo_fuel {den num : Nat} (positive : 0 < num) {fuel more : Nat} (enough : den ≤ num * 10 ^ fuel)
    (le : fuel ≤ more) (power : Nat) : raiseTo den num power more = raiseTo den num power fuel := by
  induction fuel generalizing num power more with
  | zero => rw [raiseTo_of_le (by simpa using enough), raiseTo_of_le (by simpa using enough)]
  | succ fuel ih =>
    obtain ⟨more, rfl⟩ : ∃ n, more = n + 1 := ⟨more - 1, by omega⟩
    unfold raiseTo
    split
    · refine ih (show 0 < num * 10 by omega) ?_ (by omega) _
      rwa [Nat.mul_assoc, Nat.mul_comm 10, ← pow_succ]
    · rfl

theorem raiseTo_mul {c : Nat} (positive : 0 < c) (den num power fuel : Nat) :
    raiseTo (den * c) (num * c) power fuel = ((raiseTo den num power fuel).1 * c, (raiseTo den num power fuel).2) := by
  induction fuel generalizing num power with
  | zero => rfl
  | succ fuel ih =>
    unfold raiseTo
    by_cases less : num < den
    · rw [if_pos less, if_pos (Nat.mul_lt_mul_of_pos_right less positive), Nat.mul_right_comm, ih]
    · rw [if_neg less, if_neg (by rwa [Nat.mul_lt_mul_right positive])]

theorem extend_mul {c : Nat} (positive : 0 < c) (den quotient remainder appended count : Nat) :
    extend (den * c) quotient (remainder * c) appended count = extend den quotient remainder appended count := by
  induction count generalizing quotient remainder appended with
  | zero =>
    rw [extend, extend, ← Nat.mul_assoc, Nat.mul_div_mul_right _ _ positive]
  | succ count ih =>
    have zero : (remainder * c == 0) = (remainder == 0) := by
      rw [Bool.eq_iff_iff, beq_iff_eq, beq_iff_eq, Nat.mul_eq_zero]
      omega
    rw [extend, extend, zero, ← Nat.mul_assoc, Nat.mul_div_mul_right _ _ positive, Nat.mul_mod_mul_right, ih]

theorem extend_shift (den quotient remainder appended count : Nat) :
    extend den quotient remainder (appended + 1) count =
      ((extend den quotient remainder appended count).1, (extend den quotient remainder appended count).2 + 1) := by
  induction count generalizing quotient remainder appended with
  | zero => rfl
  | succ count ih =>
    rw [extend, extend]
    split
    · rfl
    · exact ih _ _ _

theorem divMagnitudes_mul {num den c : Nat} (some : 0 < num) (factor : 0 < c) :
    divMagnitudes (num * c) (den * c) = divMagnitudes num den := by
  have enough : den ≤ num * 10 ^ (natText den).length := by
    have digits := lt_pow_length_natText den
    exact Nat.le_trans (Nat.le_of_lt digits) (Nat.le_mul_of_pos_left _ some)
  have longer : (natText den).length ≤ (natText (den * c)).length := by
    rw [length_natText_le_iff (length_natText_pos _)]
    exact Nat.lt_of_le_of_lt (Nat.le_mul_of_pos_right _ factor) (lt_pow_length_natText _)
  unfold divMagnitudes
  rw [raiseTo_mul factor, raiseTo_fuel some enough longer]
  dsimp only
  rw [Nat.mul_div_mul_right _ _ factor, Nat.mul_mod_mul_right, extend_mul factor]

theorem divMagnitudes_of_le {num den : Nat} (up : den ≤ num) :
    divMagnitudes num den = extend den (num / den) (num % den) 0 (precision - (natText (num / den)).length) := by
  unfold divMagnitudes
  rw [raiseTo_of_le up]
  simp

theorem divMagnitudes_of_lt {num den : Nat} (some : 0 < num) (less : num < den) :
    divMagnitudes num den = ((divMagnitudes (num * 10) den).1, (divMagnitudes (num * 10) den).2 + 1) := by
  obtain ⟨fuel, long⟩ : ∃ n, (natText den).length = n + 1 :=
    ⟨_, (Nat.succ_pred_eq_of_pos (length_natText_pos den)).symm⟩
  have enough : den ≤ num * 10 * 10 ^ fuel := by
    have digits := lt_pow_length_natText den
    rw [long, pow_succ, Nat.mul_comm] at digits
    rw [Nat.mul_assoc]
    exact Nat.le_trans (Nat.le_of_lt digits) (Nat.le_mul_of_pos_left _ some)
  have raised : raiseTo den num 0 (natText den).length =
      ((raiseTo den (num * 10) 0 (natText den).length).1, (raiseTo den (num * 10) 0 (natText den).length).2 + 1) := by
    rw [long, raiseTo_fuel (show 0 < num * 10 by omega) enough (Nat.le_succ fuel), raiseTo, if_pos less, raiseTo_shift]
  unfold divMagnitudes
  rw [raised]
  dsimp only
  rw [Nat.add_right_comm]

theorem extend_zero (den quotient appended count : Nat) :
    extend den quotient 0 appended count = (quotient, appended) := by
  cases count <;> simp [extend]

theorem length_natText_append {n d : Nat} (some : 0 < n) (digit : d < 10) :
    (natText (n * 10 + d)).length = (natText n).length + 1 := by
  unfold natText
  rw [Nat.toDigits_of_base_le (by decide) (by omega), List.length_append, List.length_singleton,
    show (n * 10 + d) / 10 = n by omega]

def quotient (num den : Nat) : ℚ := scaled (divMagnitudes num den).1 (divMagnitudes num den).2

theorem scaled_place (digits places : Nat) : scaled digits (places + 1 : Nat) * 10 = scaled digits places := by
  unfold scaled
  push_cast
  rw [neg_add, zpow_add₀ (by norm_num)]
  norm_num
  ring

/-- Ten times the numerator makes ten times the quotient, while there is room for one more digit. -/
theorem quotient_mul_ten {num den : Nat} (some : 0 < num) (positive : 0 < den)
    (room : num * 10 / den < 10 ^ precision) : quotient (num * 10) den = quotient num den * 10 := by
  -- Below the divisor the numerator is raised by one power less. From it on, the whole part has the digit that the
  -- extension would have appended first, and one place less is left to fill.
  by_cases less : num < den
  · conv_rhs => rw [quotient, divMagnitudes_of_lt some less, scaled_place]
    rfl
  · have up : den ≤ num := by omega
    have whole : 0 < num / den := Nat.div_pos up positive
    have next : num * 10 / den = num / den * 10 + 10 * (num % den) / den := by
      conv_lhs => rw [← Nat.div_add_mod num den, Nat.add_mul, Nat.mul_assoc, Nat.mul_comm (num % den),
        Nat.mul_add_div positive]
    have rest : num * 10 % den = 10 * (num % den) % den := by
      conv_lhs => rw [← Nat.div_add_mod num den, Nat.add_mul, Nat.mul_assoc, Nat.mul_comm (num % den),
        Nat.mul_add_mod]
    have digit : 10 * (num % den) / den < 10 := by
      rw [Nat.div_lt_iff_lt_mul positive]
      have := Nat.mod_lt num positive
      omega
    unfold quotient
    rw [divMagnitudes_of_le up, divMagnitudes_of_le (show den ≤ num * 10 by omega), next, rest]
    by_cases exact : num % den = 0
    · rw [exact, Nat.mul_zero, Nat.zero_div, Nat.zero_mod, extend_zero, extend_zero]
      simp [scaled]
    · have length := length_natText_append whole digit
      have fits : (natText (num / den * 10 + 10 * (num % den) / den)).length ≤ precision := by
        rw [length_natText_le_iff (by decide), ← next]
        exact room
      obtain ⟨count, left⟩ : ∃ n, precision - (natText (num / den)).length = n + 1 ∧
          precision - (natText (num / den * 10 + 10 * (num % den) / den)).length = n :=
        ⟨precision - (natText (num / den)).length - 1, by omega, by omega⟩
      rw [left.1, left.2, extend, if_neg (by simpa using exact), extend_shift, scaled_place]

theorem quotient_mul_pow {num den : Nat} (some : 0 < num) (positive : 0 < den) (k : Nat)
    (room : num * 10 ^ k / den < 10 ^ precision) : quotient (num * 10 ^ k) den = quotient num den * 10 ^ k := by
  induction k with
  | zero => simp
  | succ k ih =>
    rw [pow_succ, ← Nat.mul_assoc] at room ⊢
    have smaller : num * 10 ^ k / den ≤ num * 10 ^ k * 10 / den := Nat.div_le_div_right (by omega)
    rw [quotient_mul_ten (Nat.mul_pos some (Nat.pow_pos (by decide))) positive room, ih (by omega), pow_succ, mul_assoc]

theorem quotient_pow {num den : Nat} (some : 0 < num) (positive : 0 < den) (k : Nat)
    (room : num / den < 10 ^ precision) : quotient num (den * 10 ^ k) * 10 ^ k = quotient num den := by
  have power : 0 < 10 ^ k := Nat.pow_pos (by decide)
  rw [← quotient_mul_pow some (Nat.mul_pos positive power) k (by rwa [Nat.mul_div_mul_right _ _ power])]
  unfold quotient
  rw [divMagnitudes_mul some power]

theorem quotient_self {n : Nat} (positive : 0 < n) : quotient n n = 1 := by
  unfold quotient
  rw [divMagnitudes_of_le (Nat.le_refl n), Nat.mod_self, extend_zero, Nat.div_self positive]
  simp [scaled]

/-! ## Quotients of decimals -/

theorem sign_mul_sign {m n : Int} (some : m ≠ 0) (divisor : n ≠ 0) :
    m.sign * n.sign = if (m < 0) == (n < 0) then 1 else -1 := by
  rcases Int.lt_or_gt_of_ne some with left | left <;> rcases Int.lt_or_gt_of_ne divisor with right | right
  all_goals simp [Int.sign_eq_one_of_pos, Int.sign_eq_neg_one_of_neg, left, right, lt_asymm left, lt_asymm right]

theorem trivial_iff (a b : Decimal) :
    (a.isZero || b.order (ofInt 1) == .eq) = true ↔ a.value = 0 ∨ b.value = 1 := by
  rw [Bool.or_eq_true, isZero_iff, order_eq_compare, value_ofInt, beq_iff_eq, compare_eq_iff_eq, Int.cast_one]

theorem div_eq_self {a b : Decimal} (trivial : a.value = 0 ∨ b.value = 1) : a.div b = some a :=
  if_pos ((trivial_iff a b).mpr trivial)

section Fitting

variable {a b q : Decimal}

theorem value_div (dividend : a.digits ≠ 0) (divisor : b.digits ≠ 0) (other : b.value ≠ 1) (fits : a.div b = some q) :
    q.value = ((a.digits.sign * b.digits.sign : Int) : ℚ) * quotient a.digits.natAbs b.digits.natAbs *
      10 ^ (b.scale.toInt - a.scale.toInt) := by
  have proper : ¬ (a.isZero || b.order (ofInt 1) == .eq) = true := by
    rw [trivial_iff, not_or]
    exact ⟨value_ne_zero.mpr dividend, other⟩
  unfold div at fits
  rw [if_neg proper, Option.bind_eq_bind, Option.bind_eq_some_iff] at fits
  obtain ⟨one, scales, fits⟩ := fits
  obtain ⟨ones, scale⟩ := ofScale?_eq_some_iff.mp scales
  rw [sign_mul_sign dividend divisor]
  -- Equal digits are a branch of their own, with the quotient that the long way would give.
  by_cases same : a.digits = b.digits
  · rw [if_pos (by simpa using same)] at fits
    obtain rfl := Option.some_inj.mp fits
    rw [← same, quotient_self (Int.natAbs_pos.mpr dividend), value, ones, scale]
    simp [scaled]
  · rw [if_neg (by simpa using same)] at fits
    rw [quotient]
    generalize divMagnitudes a.digits.natAbs b.digits.natAbs = found at fits ⊢
    obtain ⟨digits, places⟩ := found
    have exponent : (10 : ℚ) ^ (-(a.scale.toInt - b.scale.toInt + places : Int)) =
        10 ^ (-(places : Int)) * 10 ^ (b.scale.toInt - a.scale.toInt) := by
      rw [← zpow_add₀ (by norm_num)]
      congr 1
      ring
    rw [value_of_ofScale? fits, scale, scaled, exponent, scaled]
    split <;> push_cast <;> ring

variable {k : Nat}

/-- A numerator with more zeros at the end gives the same quotient, if it is no longer than the precision. -/
theorem value_div_padded_left {a' q' : Decimal} (padded : Padded a a' k) (divisor : b.digits ≠ 0)
    (short : a'.digits.natAbs < 10 ^ precision) (fits : a.div b = some q) (fits' : a'.div b = some q') :
    q'.value = q.value := by
  by_cases trivial : a.value = 0 ∨ b.value = 1
  · rw [div_eq_self trivial, Option.some_inj] at fits
    rw [div_eq_self (by rwa [padded.value]), Option.some_inj] at fits'
    rw [← fits, ← fits', padded.value]
  · obtain ⟨nonzero, other⟩ := not_or.mp trivial
    have dividend := value_ne_zero.mp nonzero
    have dividend' : a'.digits ≠ 0 := value_ne_zero.mp (by rwa [padded.value])
    rw [padded.digits, natAbs_mul_pow] at short
    have exponent :
        (10 : ℚ) ^ (b.scale.toInt - (a.scale.toInt + k)) * 10 ^ k = 10 ^ (b.scale.toInt - a.scale.toInt) := by
      rw [← zpow_natCast, ← zpow_add₀ (by norm_num)]
      congr 1
      ring
    rw [value_div dividend' divisor other fits', value_div dividend divisor other fits, padded.digits, padded.scale,
      sign_mul_pow, natAbs_mul_pow, quotient_mul_pow (Int.natAbs_pos.mpr dividend) (Int.natAbs_pos.mpr divisor) k
        (Nat.lt_of_le_of_lt (Nat.div_le_self _ _) short), ← exponent]
    ring

theorem value_div_padded_right {b' q' : Decimal} (padded : Padded b b' k) (divisor : b.digits ≠ 0)
    (short : a.digits.natAbs < 10 ^ precision) (fits : a.div b = some q) (fits' : a.div b' = some q') :
    q'.value = q.value := by
  by_cases trivial : a.value = 0 ∨ b.value = 1
  · rw [div_eq_self trivial, Option.some_inj] at fits
    rw [div_eq_self (by rwa [padded.value]), Option.some_inj] at fits'
    rw [← fits, ← fits']
  · obtain ⟨nonzero, other⟩ := not_or.mp trivial
    have dividend := value_ne_zero.mp nonzero
    have divisor' : b'.digits ≠ 0 := value_ne_zero.mp (by rw [padded.value]; exact value_ne_zero.mpr divisor)
    have exponent : (10 : ℚ) ^ (b.scale.toInt + k - a.scale.toInt) = 10 ^ k * 10 ^ (b.scale.toInt - a.scale.toInt) := by
      rw [← zpow_natCast, ← zpow_add₀ (by norm_num)]
      congr 1
      ring
    rw [value_div dividend divisor' (by rwa [padded.value]) fits', value_div dividend divisor other fits, padded.digits,
      padded.scale, sign_mul_pow, natAbs_mul_pow, ← quotient_pow (Int.natAbs_pos.mpr dividend)
        (Int.natAbs_pos.mpr divisor) k (Nat.lt_of_le_of_lt (Nat.div_le_self _ _) short), exponent]
    ring

end Fitting

section Congruence

variable {a a' b b' q q' : Decimal}

theorem value_div_left (same : a.value = a'.value) (divisor : b.digits ≠ 0)
    (short : a.digits.natAbs < 10 ^ precision) (short' : a'.digits.natAbs < 10 ^ precision)
    (fits : a.div b = some q) (fits' : a'.div b = some q') : q.value = q'.value := by
  obtain ⟨k, more | fewer⟩ := exists_padded same
  · exact (value_div_padded_left more divisor short' fits fits').symm
  · exact value_div_padded_left fewer divisor short fits' fits

theorem value_div_right (same : b.value = b'.value) (divisor : b.digits ≠ 0)
    (short : a.digits.natAbs < 10 ^ precision) (fits : a.div b = some q) (fits' : a.div b' = some q') :
    q.value = q'.value := by
  have divisor' : b'.digits ≠ 0 := value_ne_zero.mp (by rw [← same]; exact value_ne_zero.mpr divisor)
  obtain ⟨k, more | fewer⟩ := exists_padded same
  · exact (value_div_padded_right more divisor short fits fits').symm
  · exact value_div_padded_right fewer divisor' short fits' fits

end Congruence

end Decimal

end TemplateQuery
