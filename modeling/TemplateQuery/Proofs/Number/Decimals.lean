import Mathlib.Algebra.Order.Field.Rat
import Mathlib.Data.Rat.Cast.Order
import Mathlib.Tactic.FieldSimp
import Mathlib.Tactic.Ring
import TemplateQuery.Proofs.Number.Shortest

/-! Decimals as the rational numbers they denote. Sums, products and comparisons go by the number alone, and so does
the canonical text, which is read back as a decimal of the same number. -/

set_option autoImplicit false

namespace TemplateQuery

open Number

namespace Decimal

/-- The number of digits at a scale, which need not fit. -/
def scaled (digits scale : Int) : ℚ := digits * (10 : ℚ) ^ (-scale)

def value (d : Decimal) : ℚ := scaled d.digits d.scale.toInt

theorem ten_zpow_pos (scale : Int) : (0 : ℚ) < 10 ^ scale := zpow_pos (by norm_num) scale

theorem toInt_max (s t : Int64) : (max s t).toInt = max s.toInt t.toInt := by
  have larger : max s t = if s ≤ t then t else s := rfl
  rw [larger, max_def]
  simp only [Int64.le_iff_toInt_le]
  split <;> rfl

theorem cast_digitsAt {d : Decimal} {scale : Int64} (enough : d.scale.toInt ≤ scale.toInt) :
    (d.digitsAt scale : ℚ) = d.value * 10 ^ scale.toInt := by
  unfold digitsAt value scaled
  have exponent : (10 : ℚ) ^ (scale.toInt - d.scale.toInt).toNat = 10 ^ (-d.scale.toInt) * 10 ^ scale.toInt := by
    rw [← zpow_natCast, ← zpow_add₀ (by norm_num)]
    congr 1
    omega
  push_cast
  rw [exponent, mul_assoc]

section Common

variable (a b : Decimal)

theorem cast_digitsAt_left :
    (a.digitsAt (max a.scale b.scale) : ℚ) = a.value * 10 ^ (max a.scale b.scale).toInt :=
  cast_digitsAt (by rw [toInt_max]; exact le_max_left _ _)

theorem cast_digitsAt_right :
    (b.digitsAt (max a.scale b.scale) : ℚ) = b.value * 10 ^ (max a.scale b.scale).toInt :=
  cast_digitsAt (by rw [toInt_max]; exact le_max_right _ _)

theorem order_eq_compare : a.order b = compare a.value b.value := by
  have left := cast_digitsAt_left a b
  have right := cast_digitsAt_right a b
  have positive := ten_zpow_pos (max a.scale b.scale).toInt
  unfold order
  dsimp only
  rcases lt_trichotomy a.value b.value with less | same | more
  · rw [compare_lt_iff_lt.mpr less, compare_lt_iff_lt]
    exact_mod_cast (by rw [left, right]; exact mul_lt_mul_of_pos_right less positive :
      (a.digitsAt (max a.scale b.scale) : ℚ) < b.digitsAt (max a.scale b.scale))
  · rw [compare_eq_iff_eq.mpr same, compare_eq_iff_eq]
    exact_mod_cast (by rw [left, right, same] :
      (a.digitsAt (max a.scale b.scale) : ℚ) = b.digitsAt (max a.scale b.scale))
  · rw [compare_gt_iff_gt.mpr more, compare_gt_iff_gt]
    exact_mod_cast (by rw [left, right]; exact mul_lt_mul_of_pos_right more positive :
      (b.digitsAt (max a.scale b.scale) : ℚ) < a.digitsAt (max a.scale b.scale))

theorem value_add : (a.add b).value = a.value + b.value := by
  have left := cast_digitsAt_left a b
  have right := cast_digitsAt_right a b
  have positive := ten_zpow_pos (max a.scale b.scale).toInt
  unfold add
  dsimp only
  rw [value, scaled]
  dsimp only
  push_cast
  rw [left, right, zpow_neg]
  field_simp

end Common

theorem order_eq_iff {a b : Decimal} : a.order b = .eq ↔ a.value = b.value := by
  rw [order_eq_compare, compare_eq_iff_eq]

theorem value_ofInt (n : Int) : (ofInt n).value = n := by simp [value, scaled, ofInt]

theorem value_neg (d : Decimal) : d.neg.value = -d.value := by simp [value, scaled, neg]

theorem value_sub (a b : Decimal) : (a.sub b).value = a.value - b.value := by
  rw [sub, value_add, value_neg, sub_eq_add_neg]

theorem scaled_eq_zero_iff {digits scale : Int} : scaled digits scale = 0 ↔ digits = 0 := by
  rw [scaled, mul_eq_zero, or_iff_left (ten_zpow_pos _).ne', Int.cast_eq_zero]

theorem isZero_iff (d : Decimal) : d.isZero = true ↔ d.value = 0 := by
  rw [isZero, beq_iff_eq, value, scaled_eq_zero_iff]

theorem value_ne_zero {d : Decimal} : d.value ≠ 0 ↔ d.digits ≠ 0 := scaled_eq_zero_iff.not

/-! ## Scales that fit -/

section Fitting

variable {digits scale : Int} {d : Decimal}

theorem ofScale?_eq_some_iff : ofScale? digits scale = some d ↔ d.digits = digits ∧ d.scale.toInt = scale := by
  unfold ofScale?
  split
  · next fits =>
    have exact : (Int64.ofInt scale).toInt = scale := Int64.toInt_ofInt_of_le fits.1 fits.2
    rw [Option.some_inj, Decimal.mk.injEq, eq_comm (a := digits), ← Int64.toInt_inj, exact, eq_comm (a := scale)]
  · next unfit =>
    refine iff_of_false nofun ?_
    rintro ⟨-, rfl⟩
    exact unfit ⟨d.scale.le_toInt, d.scale.toInt_lt⟩

theorem ofScale?_eq_none_iff : ofScale? digits scale = none ↔ ¬ (-2 ^ 63 ≤ scale ∧ scale < 2 ^ 63) := by
  unfold ofScale?
  split <;> simp_all

theorem value_of_ofScale? (fits : ofScale? digits scale = some d) : d.value = scaled digits scale := by
  obtain ⟨rfl, rfl⟩ := ofScale?_eq_some_iff.mp fits
  rfl

end Fitting

theorem value_mul {a b c : Decimal} (product : a.mul b = some c) : c.value = a.value * b.value := by
  rw [value_of_ofScale? product, scaled, value, value, scaled, scaled, neg_add, zpow_add₀ (by norm_num)]
  push_cast
  ring

/-! ## Canonical text -/

theorem sign_mul_pow (n : Int) (k : Nat) : (n * 10 ^ k).sign = n.sign := by
  rw [Int.sign_mul, Int.sign_eq_one_of_pos (Int.pow_pos (by decide)), mul_one]

theorem natAbs_mul_pow (n : Int) (k : Nat) : (n * 10 ^ k).natAbs = n.natAbs * 10 ^ k := by
  rw [Int.natAbs_mul, Int.natAbs_pow]
  rfl

theorem scaled_mul_pow (digits : Int) (k : Nat) (scale : Int) :
    scaled (digits * 10 ^ k) (scale + k) = scaled digits scale := by
  unfold scaled
  push_cast
  rw [neg_add, zpow_add₀ (by norm_num), zpow_neg _ (k : Int), zpow_natCast]
  field_simp

theorem exists_normalForm {d : Decimal} (nonzero : d.digits ≠ 0) :
    ∃ (m : Int) (zeros : Nat), m % 10 ≠ 0 ∧ d.digits = m * 10 ^ zeros ∧
      d.normalForm = (m, d.scale.toInt - zeros) := by
  obtain ⟨m, zeros, odd, cut⟩ := exists_cut (Int.natAbs_pos.mpr nonzero)
  have count : trailingZeros d.digits.natAbs = zeros := by rw [cut, trailingZeros_mul_pow odd]
  have signed : d.digits = d.digits.sign * m * 10 ^ zeros := by
    conv_lhs => rw [← Int.sign_mul_natAbs d.digits, cut]
    push_cast
    rw [mul_assoc]
  have odd' : d.digits.sign * m % 10 ≠ 0 := by
    rcases Int.sign_trichotomy d.digits with one | zero | minus
    · rw [one]
      omega
    · exact absurd (Int.sign_eq_zero_iff_zero.mp zero) nonzero
    · rw [minus]
      omega
  refine ⟨d.digits.sign * m, zeros, odd', signed, ?_⟩
  unfold normalForm
  rw [if_neg (by simpa [isZero] using nonzero), count]
  dsimp only
  congr 1
  conv_lhs => rw [signed]
  exact Int.mul_ediv_cancel _ (Int.pow_ne_zero (by decide))

theorem normalForm_of_zero {d : Decimal} (zero : d.digits = 0) : d.normalForm = (0, 0) :=
  if_pos (by simp [isZero, zero])

theorem scaled_normalForm (d : Decimal) : scaled d.normalForm.1 d.normalForm.2 = d.value := by
  by_cases zero : d.digits = 0
  · rw [normalForm_of_zero zero]
    simp [value, scaled, zero]
  · obtain ⟨m, zeros, -, digits, same⟩ := exists_normalForm zero
    rw [same, ← scaled_mul_pow m zeros, ← digits, sub_add_cancel, value]

theorem eq_mul_pow_of_scaled {m n s t : Int} (same : scaled m s = scaled n t) (below : s ≤ t) :
    n = m * 10 ^ (t - s).toNat := by
  have moved := scaled_mul_pow m (t - s).toNat s
  rw [show s + ((t - s).toNat : Int) = t by omega, same] at moved
  exact_mod_cast (mul_right_cancel₀ (ten_zpow_pos (-t)).ne' moved).symm

theorem eq_of_scaled_of_le {m n s t : Int} (odd : n % 10 ≠ 0) (below : s ≤ t) (same : scaled m s = scaled n t) :
    m = n ∧ s = t := by
  obtain ⟨k, gap⟩ : ∃ k : Nat, t = s + k := ⟨(t - s).toNat, by omega⟩
  have digits := eq_mul_pow_of_scaled same below
  rw [gap, add_sub_cancel_left, Int.toNat_natCast] at digits
  cases k with
  | zero => simp_all
  | succ k =>
    rw [digits, pow_succ, ← mul_assoc] at odd
    omega

theorem normalForm_eq_of_value {a b : Decimal} (same : a.value = b.value) : a.normalForm = b.normalForm := by
  by_cases zero : a.digits = 0
  · have zero' : b.digits = 0 := scaled_eq_zero_iff.mp (same.symm.trans (scaled_eq_zero_iff.mpr zero))
    rw [normalForm_of_zero zero, normalForm_of_zero zero']
  · have nonzero' : b.digits ≠ 0 := value_ne_zero.mp (by rw [← same]; exact value_ne_zero.mpr zero)
    rw [← scaled_normalForm a, ← scaled_normalForm b] at same
    obtain ⟨m, zeros, odd, -, normal⟩ := exists_normalForm zero
    obtain ⟨n, zeros', odd', -, normal'⟩ := exists_normalForm nonzero'
    rw [normal, normal'] at same ⊢
    rcases le_total (a.scale.toInt - zeros) (b.scale.toInt - zeros') with below | above
    · obtain ⟨rfl, scales⟩ := eq_of_scaled_of_le odd' below same
      rw [scales]
    · obtain ⟨rfl, scales⟩ := eq_of_scaled_of_le odd above same.symm
      rw [scales]

theorem normalForm_lt (d : Decimal) : d.normalForm.2 < 2 ^ 63 := by
  have bound := d.scale.toInt_lt
  by_cases zero : d.digits = 0
  · rw [normalForm_of_zero zero]
    decide
  · obtain ⟨m, zeros, -, -, normal⟩ := exists_normalForm zero
    rw [normal]
    dsimp only
    omega

theorem text_eq (d : Decimal) :
    d.text = if -2 ^ 63 < d.normalForm.2 then some (spelled d.normalForm.1 d.normalForm.2) else none := by
  have below := d.normalForm_lt
  unfold text normalize
  cases found : ofScale? d.normalForm.1 d.normalForm.2 with
  | none =>
    rw [ofScale?_eq_none_iff] at found
    rw [if_neg (by omega)]
    rfl
  | some n =>
    obtain ⟨digits, scale⟩ := ofScale?_eq_some_iff.mp found
    have least : n.scale = .minValue ↔ d.normalForm.2 = -2 ^ 63 := by
      rw [← Int64.toInt_inj, Int64.toInt_minValue, scale]
    have above := n.scale.le_toInt
    rw [scale] at above
    rw [Option.bind_eq_bind, Option.bind_some, digits]
    simp only [scale]
    by_cases smallest : d.normalForm.2 = -2 ^ 63
    · rw [if_pos (least.mpr smallest), if_neg (by omega)]
    · rw [if_neg (least.not.mpr smallest), if_pos (by omega)]

theorem text_eq_some_iff {d : Decimal} {cs : List Char} :
    d.text = some cs ↔ -2 ^ 63 < d.normalForm.2 ∧ spelled d.normalForm.1 d.normalForm.2 = cs := by
  rw [text_eq]
  split <;> simp_all

theorem text_congr {a b : Decimal} (same : a.value = b.value) : a.text = b.text := by
  rw [text_eq, text_eq, normalForm_eq_of_value same]

def reread (d : Decimal) : Decimal :=
  if d.normalForm.2 ≤ 0 then ⟨d.normalForm.1 * 10 ^ (1 - d.normalForm.2).toNat, 1⟩
  else ⟨d.normalForm.1, .ofInt d.normalForm.2⟩

theorem reread_of_whole {d : Decimal} (whole : d.normalForm.2 ≤ 0) :
    d.reread = ⟨d.normalForm.1 * 10 ^ (1 - d.normalForm.2).toNat, 1⟩ := if_pos whole

theorem reread_of_fraction {d : Decimal} (fraction : ¬ d.normalForm.2 ≤ 0) :
    d.reread.digits = d.normalForm.1 ∧ d.reread.scale.toInt = d.normalForm.2 := by
  rw [reread, if_neg fraction]
  exact ⟨rfl, Int64.toInt_ofInt_of_le (by omega) d.normalForm_lt⟩

theorem value_reread (d : Decimal) : d.reread.value = d.value := by
  rw [← scaled_normalForm d]
  by_cases whole : d.normalForm.2 ≤ 0
  · rw [reread_of_whole whole, ← scaled_mul_pow d.normalForm.1 (1 - d.normalForm.2).toNat, value]
    congr 1
    show (1 : Int) = _
    omega
  · obtain ⟨digits, scale⟩ := reread_of_fraction whole
    rw [value, digits, scale]

theorem cutPoint_of_absent {cs : List Char} (absent : '.' ∉ cs) : cutPoint cs = (cs, 0) := by
  have uncut : Text.splitAt? (· == '.') cs = none := by
    rw [Text.splitAt?_eq_none_iff]
    exact fun c member => beq_eq_false_iff_ne.mpr fun same => absent (same ▸ member)
  rw [cutPoint, uncut]

theorem cutPoint_point {before : List Char} (absent : '.' ∉ before) (after : List Char) :
    cutPoint (before ++ '.' :: after) = (before ++ after, (bare after).length) := by
  have clear : ∀ c ∈ before, (c == '.') = false :=
    fun c member => beq_eq_false_iff_ne.mpr fun same => absent (same ▸ member)
  rw [cutPoint, Text.splitAt?_cut clear rfl]
  rfl

theorem read?_of_unmarked {cs : List Char} (unmarked : ∀ c ∈ cs, isExponentMark c = false) :
    read? cs = (readInteger? (cutPoint cs).1).bind fun n => ofScale? n (cutPoint cs).2 := by
  unfold read?
  rw [Text.splitAt?_eq_none_iff.mpr unmarked]
  show (readInteger? (cutPoint cs).1).bind (fun n => ofScale? n ((cutPoint cs).2 - 0)) = _
  rw [sub_zero]

theorem read?_digits (negative : Bool) {whole fraction : List Char} (digits : IsDigits (whole ++ fraction)) :
    read? (signText negative ++ whole ++ '.' :: fraction) =
      ofScale? (if negative then -(ofDigits (whole ++ fraction) : Int) else ofDigits (whole ++ fraction))
        fraction.length := by
  have sign := isSign_signText negative
  have unmarked : ∀ c ∈ signText negative ++ whole ++ '.' :: fraction, isExponentMark c = false := by
    intro c member
    simp only [List.mem_append, List.mem_cons] at member
    rcases member with (sign | digit) | point | digit
    · cases negative <;> simp [signText] at sign
      rw [sign]
      rfl
    · exact not_exponentMark (.inl (digits.2 c (List.mem_append_left _ digit)))
    · exact not_exponentMark (.inr point)
    · exact not_exponentMark (.inl (digits.2 c (List.mem_append_right _ digit)))
  have pointless : '.' ∉ signText negative ++ whole := by
    rw [List.mem_append, not_or]
    exact ⟨not_mem_sign sign (by decide), fun member => not_mem_of_isDigits digits rfl (List.mem_append_left _ member)⟩
  have places : bare fraction = fraction :=
    bare_eq_self.mpr fun member => not_mem_of_isDigits digits rfl (List.mem_append_right _ member)
  have cut : cutPoint (signText negative ++ whole ++ '.' :: fraction) =
      (signText negative ++ (whole ++ fraction), fraction.length) := by
    rw [cutPoint_point pointless, places, List.append_assoc]
  rw [read?_of_unmarked unmarked, cut, readInteger?_digits negative digits, Option.bind_some]

theorem signed_natAbs (n : Int) (k : Nat) :
    (if decide (n < 0) then -((n.natAbs * 10 ^ k : Nat) : Int) else ((n.natAbs * 10 ^ k : Nat) : Int)) =
      n * 10 ^ k := by
  by_cases negative : n < 0
  · have magnitude : (n.natAbs : Int) = -n := by omega
    simp [negative, magnitude]
  · have magnitude : (n.natAbs : Int) = n := by omega
    simp [negative, magnitude]

theorem ofDigits_zeros (n k : Nat) : ofDigits (natText n ++ List.replicate k '0' ++ ['0']) = n * 10 ^ (k + 1) := by
  rw [List.append_assoc, ← List.replicate_succ', ofDigits_append, ofDigits_natText,
    ← List.append_nil (List.replicate (k + 1) '0'), ofDigits_replicate]
  simp [ofDigits]

theorem read?_whole (digits : Int) (k : Nat) :
    read? (signText (decide (digits < 0)) ++ (natText digits.natAbs ++ List.replicate k '0') ++ '.' :: ['0']) =
      some ⟨digits * 10 ^ (k + 1), 1⟩ := by
  have run : IsDigits (natText digits.natAbs ++ List.replicate k '0' ++ ['0']) := by
    rw [List.append_assoc, ← List.replicate_succ']
    exact (isDigits_natText _).append isDigit_of_mem_replicate
  rw [read?_digits _ run, ofDigits_zeros, signed_natAbs, ofScale?_eq_some_iff]
  exact ⟨rfl, rfl⟩

theorem read?_places (digits : Int) (places : Nat) :
    let run := List.replicate (places + 1 - (natText digits.natAbs).length) '0' ++ natText digits.natAbs
    read? (signText (decide (digits < 0)) ++ run.take (run.length - places) ++ '.' :: run.drop (run.length - places)) =
      ofScale? digits places := by
  intro run
  have long : places + 1 ≤ run.length := by
    simp only [run, List.length_append, List.length_replicate]
    omega
  have behind : (run.drop (run.length - places)).length = places := by
    rw [List.length_drop]
    omega
  have digital : IsDigits (run.take (run.length - places) ++ run.drop (run.length - places)) := by
    rw [List.take_append_drop]
    exact isDigits_zeros _ digits.natAbs
  have value : ofDigits run = digits.natAbs * 10 ^ 0 := by simp [run]
  rw [read?_digits _ digital, List.take_append_drop, behind, value, signed_natAbs]
  simp

theorem read?_spelled (digits scale : Int) :
    read? (spelled digits scale) =
      if scale ≤ 0 then some ⟨digits * 10 ^ (1 - scale).toNat, 1⟩ else ofScale? digits scale := by
  unfold spelled
  simp only [← signText_decide]
  by_cases whole : scale ≤ 0
  · rw [if_pos whole, if_pos whole]
    have written : ∃ k, (if digits = 0 then [] else List.replicate scale.natAbs '0') = List.replicate k '0' ∧
        digits * 10 ^ (k + 1) = digits * 10 ^ (1 - scale).toNat := by
      by_cases none : digits = 0
      · exact ⟨0, by simp [none], by simp [none]⟩
      · exact ⟨scale.natAbs, by simp [none], by congr 2; omega⟩
    obtain ⟨k, zeros, same⟩ := written
    rw [zeros, List.append_assoc (signText _), read?_whole, same]
  · rw [if_neg whole, if_neg whole, read?_places, show (scale.natAbs : Int) = scale by omega]

theorem read?_text {d : Decimal} {cs : List Char} (written : d.text = some cs) : read? cs = some d.reread := by
  obtain ⟨-, rfl⟩ := text_eq_some_iff.mp written
  rw [read?_spelled]
  by_cases whole : d.normalForm.2 ≤ 0
  · rw [if_pos whole, reread_of_whole whole]
  · rw [if_neg whole, ofScale?_eq_some_iff]
    exact reread_of_fraction whole

theorem reread_scale_pos (d : Decimal) : 0 < d.reread.scale.toInt := by
  by_cases whole : d.normalForm.2 ≤ 0
  · rw [reread_of_whole whole]
    exact Int.one_pos
  · rw [(reread_of_fraction whole).2]
    omega

/-- Reading the text of a decimal with a scale that is not negative adds one digit at most. -/
theorem reread_short {d : Decimal} {length : Nat} (fraction : 0 ≤ d.scale.toInt)
    (short : d.digits.natAbs < 10 ^ length) : d.reread.digits.natAbs < 10 ^ (length + 1) := by
  by_cases zero : d.digits = 0
  · rw [reread, normalForm_of_zero zero]
    exact Nat.pow_pos (by decide)
  · -- The zeros that were cut off are written again, and one more behind the point.
    obtain ⟨m, zeros, -, digits, normal⟩ := exists_normalForm zero
    rw [digits, natAbs_mul_pow] at short
    rw [reread, normal]
    dsimp only
    split
    · next whole =>
      have fewer : 10 ^ (1 - (d.scale.toInt - zeros)).toNat ≤ 10 ^ (zeros + 1) :=
        Nat.pow_le_pow_right (by decide) (by omega)
      calc (m * 10 ^ (1 - (d.scale.toInt - zeros)).toNat).natAbs
        _ = m.natAbs * 10 ^ (1 - (d.scale.toInt - zeros)).toNat := natAbs_mul_pow m _
        _ ≤ m.natAbs * 10 ^ (zeros + 1) := Nat.mul_le_mul_left _ fewer
        _ = m.natAbs * 10 ^ zeros * 10 := by rw [pow_succ, Nat.mul_assoc]
        _ < 10 ^ length * 10 := Nat.mul_lt_mul_of_pos_right short (by decide)
        _ = 10 ^ (length + 1) := (pow_succ 10 length).symm
    · calc m.natAbs
        _ ≤ m.natAbs * 10 ^ zeros := Nat.le_mul_of_pos_right _ (Nat.pow_pos (by decide))
        _ < 10 ^ length := short
        _ ≤ 10 ^ (length + 1) := Nat.pow_le_pow_right (by decide) (Nat.le_succ length)

/-! ## Decimals of one number -/

/-- The same number with so many more zeros at the end of its digits. -/
structure Padded (a b : Decimal) (k : Nat) : Prop where
  digits : b.digits = a.digits * 10 ^ k
  scale : b.scale.toInt = a.scale.toInt + k

theorem Padded.value {a b : Decimal} {k : Nat} (padded : Padded a b k) : b.value = a.value := by
  rw [Decimal.value, padded.digits, padded.scale, scaled_mul_pow, Decimal.value]

theorem exists_padded {a b : Decimal} (same : a.value = b.value) : ∃ k : Nat, Padded a b k ∨ Padded b a k := by
  rcases le_total a.scale.toInt b.scale.toInt with below | above
  · exact ⟨(b.scale.toInt - a.scale.toInt).toNat, .inl ⟨eq_mul_pow_of_scaled same below, by omega⟩⟩
  · exact ⟨(a.scale.toInt - b.scale.toInt).toNat, .inr ⟨eq_mul_pow_of_scaled same.symm above, by omega⟩⟩

end Decimal

/-! ## Passage to doubles -/

namespace Binary

theorem dropSurplus_of_lt {digits : Nat} (short : digits < 10 ^ 44) (scale : Int) (fuel : Nat) :
    dropSurplus digits scale fuel = (digits, scale) := by
  cases fuel with
  | zero => rfl
  | succ fuel => exact if_neg (Nat.not_le_of_lt short)

theorem ofDecimal_eq {d : Decimal} (fraction : 0 ≤ d.scale.toInt) (short : d.digits.natAbs < 10 ^ 44) :
    (ofDecimal d : Double) = ofScientific (d.digits < 0) d.digits.natAbs (-d.scale.toInt) := by
  unfold ofDecimal
  by_cases whole : d.scale = 0
  · rw [if_pos whole, whole, Int64.toInt_zero, ofInt]
    by_cases zero : d.digits = 0
    · simp [zero, ofScientific, Binary.zero, ofRatio]
    · have length : (natText d.digits.natAbs).length ≤ 44 := (length_natText_le_iff (by decide)).mpr short
      have bound : Format.double.scale + Format.double.top = 3172 := by decide
      rw [ofScientific_eq 0 (Int.natAbs_ne_zero.mpr zero) (by omega) (by omega) (by decide)]
      simp
  · have positive : 0 < d.scale := by
      rw [Int64.lt_iff_toInt_lt, Int64.toInt_zero]
      rw [← Int64.toInt_inj, Int64.toInt_zero] at whole
      omega
    rw [if_neg whole, if_pos positive, dropSurplus_of_lt short]

theorem ofScientific_padded {a b : Decimal} {k : Nat} (padded : Decimal.Padded a b k) :
    (ofScientific (b.digits < 0) b.digits.natAbs (-b.scale.toInt) : Double) =
      ofScientific (a.digits < 0) a.digits.natAbs (-a.scale.toInt) := by
  have sign : a.digits * 10 ^ k < 0 ↔ a.digits < 0 := by
    rw [← Int.sign_eq_neg_one_iff_neg, Decimal.sign_mul_pow, Int.sign_eq_neg_one_iff_neg]
  rw [padded.digits, padded.scale, Decimal.natAbs_mul_pow, ofScientific_mul_pow, neg_add, neg_add_cancel_right]
  simp only [sign]

theorem ofDecimal_congr {a b : Decimal} (same : a.value = b.value) (fraction : 0 ≤ a.scale.toInt)
    (fraction' : 0 ≤ b.scale.toInt) (short : a.digits.natAbs < 10 ^ 44) (short' : b.digits.natAbs < 10 ^ 44) :
    (ofDecimal a : Double) = ofDecimal b := by
  rw [ofDecimal_eq fraction short, ofDecimal_eq fraction' short']
  obtain ⟨k, more | fewer⟩ := Decimal.exists_padded same
  · exact (ofScientific_padded more).symm
  · exact ofScientific_padded fewer

end Binary

end TemplateQuery
