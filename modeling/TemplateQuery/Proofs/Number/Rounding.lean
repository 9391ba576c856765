import TemplateQuery.Number.Double
import TemplateQuery.Proofs.Number.Digits

/-! Rounding to a binary format depends on the number alone and not on how it is written as a fraction, and a number
that the format holds is its own nearest one. -/

set_option autoImplicit false

namespace TemplateQuery

open Number

namespace Format

variable {f : Format} {c : Nat}

theorem compare_mul (positive : 0 < c) (a b : Nat) : compare (a * c) (b * c) = compare a b := by
  rcases Nat.lt_trichotomy a b with less | rfl | more
  · rw [Nat.compare_eq_lt.mpr less, Nat.compare_eq_lt.mpr (Nat.mul_lt_mul_of_pos_right less positive)]
  · rw [Nat.compare_eq_eq.mpr rfl, Nat.compare_eq_eq.mpr rfl]
  · rw [Nat.compare_eq_gt.mpr more, Nat.compare_eq_gt.mpr (Nat.mul_lt_mul_of_pos_right more positive)]

theorem roundDiv_mul (positive : 0 < c) (num den : Nat) : roundDiv (num * c) (den * c) = roundDiv num den := by
  unfold roundDiv
  rw [Nat.mul_div_mul_right num den positive, Nat.mul_mod_mul_right c num den, ← Nat.mul_assoc, compare_mul positive]

theorem roundDiv_of_dvd {den : Nat} (positive : 0 < den) (q : Nat) : roundDiv (q * den) den = q := by
  unfold roundDiv
  rw [Nat.mul_div_cancel q positive, Nat.mul_mod_left, Nat.mul_zero, Nat.compare_eq_lt.mpr positive]

theorem nearest_mul (positive : 0 < c) (num den : Nat) : f.nearest (num * c) (den * c) = f.nearest num den := by
  unfold nearest
  dsimp only
  rw [Nat.mul_div_mul_right num den positive, Nat.mul_right_comm den c, roundDiv_mul positive]

theorem nearest_of_holds {units den : Nat} (holds : f.Holds units) (positive : 0 < den) :
    f.nearest (units * den) den = units := by
  obtain ⟨m, cut⟩ := holds.significant
  have whole : f.excess (units * den / den) = bits units - f.precision := by
    rw [Nat.mul_div_cancel units positive, excess]
  unfold nearest
  dsimp only
  rw [whole]
  generalize 2 ^ (bits units - f.precision) = unit at cut
  rw [show units * den = m * (den * unit) by rw [cut, Nat.mul_comm unit m, Nat.mul_assoc, Nat.mul_comm unit]]
  by_cases none : unit = 0
  · simp [cut, none]
  · rw [roundDiv_of_dvd (Nat.mul_pos positive (Nat.pos_of_ne_zero none)), cut, Nat.mul_comm]

end Format

namespace Binary

variable {f : Format} {negative : Bool}

theorem ofRatio_mul {c : Nat} (positive : 0 < c) (num den : Nat) :
    (ofRatio negative (num * c) (den * c) : Binary f) = ofRatio negative num den := by
  unfold ofRatio ofUnits
  simp only [Nat.mul_right_comm num c, Format.nearest_mul positive]

theorem ofUnits_of_nearest {num den units : Nat} (holds : f.Holds units) (same : f.nearest num den = units) :
    ofUnits negative num den = .finite negative units holds := by
  subst same
  exact dif_pos holds.bounded

/-- Within the powers of ten that are looked at, a decimal gets the number nearest to it. -/
theorem ofScientific_eq (places : Nat) {digits : Nat} {exponent : Int} (nonzero : digits ≠ 0)
    (low : -((f.scale : Int) + f.top) ≤ (natText digits).length + exponent)
    (high : (natText digits).length + exponent ≤ (f.scale : Int) + f.top) (deep : 0 ≤ exponent + places) :
    (ofScientific negative digits exponent : Binary f) =
      ofRatio negative (digits * 10 ^ (exponent + places).toNat) (10 ^ places) := by
  unfold ofScientific
  dsimp only
  rw [if_neg (by simp [nonzero]; omega), if_neg (by omega)]
  split
  · next below =>
    rw [← ofRatio_mul (Nat.pow_pos (n := (exponent + places).toNat) (show 0 < 10 by decide)), ← Nat.pow_add]
    congr 3
    omega
  · rw [← ofRatio_mul (Nat.pow_pos (n := places) (show 0 < 10 by decide)), Nat.mul_assoc, ← Nat.pow_add, Nat.one_mul]
    congr 3
    omega

theorem ofScientific_mul_pow (digits k : Nat) (exponent : Int) :
    (ofScientific negative (digits * 10 ^ k) exponent : Binary f) = ofScientific negative digits (exponent + k) := by
  by_cases nonzero : digits = 0
  · simp [ofScientific, nonzero]
  have positive := Nat.pos_of_ne_zero nonzero
  have nonzero' : digits * 10 ^ k ≠ 0 := Nat.ne_of_gt (Nat.mul_pos positive (Nat.pow_pos (by decide)))
  have length : ((natText (digits * 10 ^ k)).length : Int) + exponent = (natText digits).length + (exponent + k) := by
    rw [natText_mul_pow positive, List.length_append, List.length_replicate]
    omega
  by_cases low : -((f.scale : Int) + f.top) ≤ (natText digits).length + (exponent + k)
  · by_cases high : (natText digits).length + (exponent + k) ≤ (f.scale : Int) + f.top
    · rw [ofScientific_eq (-exponent).toNat nonzero' (by omega) (by omega) (by omega),
        ofScientific_eq (-exponent).toNat nonzero (by omega) (by omega) (by omega),
        Nat.mul_assoc, ← Nat.pow_add]
      congr 3
      omega
    · unfold ofScientific
      dsimp only
      rw [length, if_neg (by simp [nonzero']; omega), if_pos (by omega), if_neg (by simp [nonzero]; omega),
        if_pos (by omega)]
  · unfold ofScientific
    dsimp only
    rw [length, if_pos (by simp; omega), if_pos (by simp; omega)]

end Binary

end TemplateQuery
