import TemplateQuery.Number.Decimal
import TemplateQuery.Proofs.Text.Numerals
import TemplateQuery.Text.Blank

/-! Runs of decimal digits: what they are worth, how long they are, and the zeros at their end. -/

set_option autoImplicit false

namespace TemplateQuery

namespace Number

theorem ofDigits_append (front back : List Char) :
    ofDigits (front ++ back) = ofDigits front * 10 ^ back.length + ofDigits back := by
  unfold ofDigits
  rw [Nat.ofDigitChars_append, Nat.ofDigitChars_eq_ofDigitChars_zero, Nat.mul_comm]

@[simp]
theorem ofDigits_replicate (n : Nat) (cs : List Char) : ofDigits (List.replicate n '0' ++ cs) = ofDigits cs := by
  rw [ofDigits_append]
  simp [ofDigits, Nat.ofDigitChars_replicate_zero]

theorem length_natText_pos (n : Nat) : 0 < (natText n).length := Nat.length_toDigits_pos

theorem length_natText_le_iff {n k : Nat} (positive : 0 < k) : (natText n).length ≤ k ↔ n < 10 ^ k :=
  Nat.length_toDigits_le_iff (by decide) positive

theorem lt_pow_length_natText (n : Nat) : n < 10 ^ (natText n).length :=
  (length_natText_le_iff (length_natText_pos n)).mp (Nat.le_refl _)

theorem not_blank_of_isDigit {c : Char} (digit : c.isDigit = true) : Text.isBlank c = false := by
  have bounds : 48 ≤ c.toNat ∧ c.toNat ≤ 57 := by
    simpa [Char.isDigit, UInt32.le_iff_toNat_le] using digit
  simp only [Text.isBlank]
  grind

theorem natText_mul_ten {n : Nat} (positive : 0 < n) : natText (n * 10) = natText n ++ ['0'] := by
  unfold natText
  rw [Nat.toDigits_of_base_le (by decide) (by omega), Nat.mul_div_cancel n (by decide), Nat.mul_mod_left]
  rfl

theorem natText_mul_pow {n : Nat} (positive : 0 < n) (k : Nat) :
    natText (n * 10 ^ k) = natText n ++ List.replicate k '0' := by
  induction k with
  | zero => simp
  | succ k ih =>
    rw [Nat.pow_succ, ← Nat.mul_assoc, natText_mul_ten (Nat.mul_pos positive (Nat.pow_pos (by decide))), ih,
      List.append_assoc, ← List.replicate_succ']

theorem exists_last {n : Nat} (odd : n % 10 ≠ 0) : ∃ front c, natText n = front ++ [c] ∧ c ≠ '0' := by
  have last : Nat.digitChar (n % 10) ≠ '0' := by
    have digits : ∀ d < 10, d ≠ 0 → Nat.digitChar d ≠ '0' := by decide
    exact digits _ (Nat.mod_lt _ (by decide)) odd
  unfold natText
  by_cases small : n < 10
  · rw [Nat.mod_eq_of_lt small] at last
    exact ⟨[], _, Nat.toDigits_of_lt_base small, last⟩
  · exact ⟨_, _, Nat.toDigits_of_base_le (by decide) (by omega), last⟩

theorem exists_cut {n : Nat} (positive : 0 < n) : ∃ m zeros, m % 10 ≠ 0 ∧ n = m * 10 ^ zeros := by
  induction n using Nat.strongRecOn with
  | ind n ih =>
    by_cases odd : n % 10 = 0
    · obtain ⟨m, zeros, last, same⟩ := ih (n / 10) (by omega) (by omega)
      refine ⟨m, zeros + 1, last, ?_⟩
      rw [Nat.pow_succ, ← Nat.mul_assoc, ← same]
      omega
    · exact ⟨n, 0, odd, by simp⟩

theorem reverse_natText_mul_pow {m : Nat} (odd : m % 10 ≠ 0) (zeros : Nat) :
    ∃ front c, natText m = front ++ [c] ∧ c ≠ '0' ∧
      (natText (m * 10 ^ zeros)).reverse = List.replicate zeros '0' ++ c :: front.reverse := by
  obtain ⟨front, c, same, other⟩ := exists_last odd
  refine ⟨front, c, same, other, ?_⟩
  rw [natText_mul_pow (Nat.pos_of_ne_zero (by rintro rfl; exact odd rfl)), same]
  simp

theorem trailingZeros_mul_pow {m : Nat} (odd : m % 10 ≠ 0) (zeros : Nat) :
    Decimal.trailingZeros (m * 10 ^ zeros) = zeros := by
  obtain ⟨front, c, -, other, digits⟩ := reverse_natText_mul_pow odd zeros
  rw [Decimal.trailingZeros, digits, List.takeWhile_append_of_pos (by simp)]
  simp [other]

theorem dropZeros_mul_pow {m : Nat} (odd : m % 10 ≠ 0) (zeros : Nat) :
    ((natText (m * 10 ^ zeros)).reverse.dropWhile (· == '0')).reverse = natText m := by
  obtain ⟨front, c, same, other, digits⟩ := reverse_natText_mul_pow odd zeros
  rw [digits, List.dropWhile_append_of_pos (by simp), same]
  simp [other]

/-! ## Signs -/

def signText (negative : Bool) : List Char := if negative then ['-'] else []

theorem signText_decide (n : Int) : signText (decide (n < 0)) = if n < 0 then ['-'] else [] := by simp [signText]

theorem isSign_signText (negative : Bool) : IsSign (signText negative) (if negative then -1 else 1) := by
  cases negative
  · exact .none
  · exact .minus

theorem readInteger?_digits (negative : Bool) {cs : List Char} (digits : IsDigits cs) :
    readInteger? (signText negative ++ cs) = some (if negative then -(ofDigits cs : Int) else ofDigits cs) := by
  obtain ⟨read, -⟩ := integerText_iff.mp (IntegerText.mk (isSign_signText negative) digits)
  rw [readInteger?_eq_some_iff.mpr read]
  cases negative <;> simp

end Number

end TemplateQuery
