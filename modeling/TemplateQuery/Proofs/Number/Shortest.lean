import TemplateQuery.Proofs.Number.Rounding
import TemplateQuery.Proofs.Text.Splitting

/-! Binary numbers and their texts. A numeral is read as the number nearest to it, so the canonical text of a finite
number, whose digits were chosen to be nearest to it, is read back as that number. -/

set_option autoImplicit false

namespace TemplateQuery

open Number

/-! ## Numerals -/

namespace Number

theorem not_exponentMark {c : Char} (digit : c.isDigit = true ∨ c = '.') : Decimal.isExponentMark c = false := by
  rcases digit with digit | rfl
  · rw [Bool.eq_false_iff]
    intro mark
    simp only [Decimal.isExponentMark, Bool.or_eq_true, beq_iff_eq] at mark
    rcases mark with rfl | rfl <;> cases digit
  · decide

end Number

namespace Binary

variable {f : Format} {negative : Bool}

theorem cutSign_signText {c : Char} {cs : List Char} (digit : c.isDigit = true) :
    cutSign (signText negative ++ c :: cs) = (negative, c :: cs) := by
  cases negative with
  | true => rfl
  | false =>
    simp only [signText, Bool.false_eq_true, if_false, List.nil_append]
    unfold cutSign
    split
    · next same => cases same; cases digit
    · next same => cases same; cases digit
    · rfl

theorem readSignificand?_digits {first : Char} {rest : List Char} (digits : ∀ c ∈ first :: rest, c.isDigit = true) :
    readSignificand? (first :: '.' :: rest) = some (ofDigits (first :: rest), rest.length) := by
  have point : Text.splitAt? (· == '.') ([first] ++ '.' :: rest) = some ([first], rest) := by
    refine Text.splitAt?_cut ?_ rfl
    intro d member
    obtain rfl := List.mem_singleton.mp member
    exact beq_eq_false_iff_ne.mpr (ne_of_isDigit (digits d List.mem_cons_self) rfl)
  have allDigits : (first :: rest).all Char.isDigit = true := List.all_eq_true.mpr digits
  rw [readSignificand?, show first :: '.' :: rest = [first] ++ '.' :: rest from rfl, point]
  simp only [Option.getD_some, List.singleton_append, allDigits]
  rfl

theorem readNumeral?_digits (first : Char) (rest : List Char) (digits : ∀ c ∈ first :: rest, c.isDigit = true)
    (exponent : Int) :
    (readNumeral? (signText negative ++ first :: '.' :: rest ++ 'E' :: intText exponent) : Option (Binary f)) =
      some (ofScientific negative (ofDigits (first :: rest)) (exponent - rest.length)) := by
  have marked : Text.splitAt? Decimal.isExponentMark ((first :: '.' :: rest) ++ 'E' :: intText exponent) =
      some (first :: '.' :: rest, intText exponent) := by
    refine Text.splitAt?_cut (fun c member => not_exponentMark ?_) (by decide)
    rcases List.mem_cons.mp member with rfl | member
    · exact .inl (digits c List.mem_cons_self)
    · rcases List.mem_cons.mp member with rfl | member
      · exact .inr rfl
      · exact .inl (digits c (List.mem_cons_of_mem _ member))
  unfold readNumeral?
  rw [List.append_assoc, List.cons_append, cutSign_signText (digits first List.mem_cons_self)]
  dsimp only
  rw [← List.cons_append, marked]
  dsimp only
  rw [readExponent?_intText]
  simp only [Option.map_some, Option.bind_eq_bind, Option.bind_some, readSignificand?_digits digits]
  rfl

theorem readNumeral?_text (s : Scientific) :
    (readNumeral? (signText negative ++ s.text) : Option (Binary f)) =
      some (ofScientific negative s.digits s.exponent) := by
  obtain ⟨digits, exponent⟩ := s
  by_cases zero : digits = 0
  · subst zero
    have numeral : Scientific.text ⟨0, exponent⟩ = '0' :: '.' :: ['0'] ++ 'E' :: intText 0 := by
      simp [Scientific.text, natText, intText, Nat.toDigits_zero]
    rw [numeral, ← List.append_assoc, readNumeral?_digits '0' ['0'] (by simp)]
    simp [ofScientific, ofDigits, Nat.ofDigitChars_cons]
  · obtain ⟨m, zeros, odd, rfl⟩ := exists_cut (Nat.pos_of_ne_zero zero)
    have positive : 0 < m := Nat.pos_of_ne_zero (by rintro rfl; exact odd rfl)
    obtain ⟨first, rest, written⟩ := List.exists_cons_of_ne_nil (natText_ne_nil m)
    have digits : ∀ c ∈ first :: rest, c.isDigit = true := fun c member => isDigit_of_mem_natText (written ▸ member)
    have value : ofDigits (first :: rest) = m := by rw [← written, ofDigits_natText]
    have point : exponent + ((natText (m * 10 ^ zeros)).length : Nat) - 1 = exponent + zeros + rest.length := by
      rw [natText_mul_pow positive, written]
      simp only [List.length_append, List.length_cons, List.length_replicate]
      omega
    rw [ofScientific_mul_pow, Scientific.text]
    dsimp only
    rw [dropZeros_mul_pow odd, point, written]
    dsimp only
    by_cases short : rest = []
    · -- A zero is written after the point, as if ten times the digits had been there.
      subst short
      have tenfold : ofDigits [first, '0'] = m * 10 ^ 1 := by
        rw [← value, show [first, '0'] = [first] ++ ['0'] from rfl, ofDigits_append]
        rfl
      rw [List.isEmpty_nil, if_pos rfl, ← List.append_assoc,
        readNumeral?_digits first ['0'] (by simpa using digits), tenfold, ofScientific_mul_pow]
      congr 2
      simp
    · rw [if_neg (by simpa using short), ← List.append_assoc, readNumeral?_digits first rest digits, value]
      congr 2
      omega

theorem read?_eq_readNumeral? {c : Char} {cs : List Char} (digit : c.isDigit = true) :
    (read? (signText negative ++ c :: cs) : Option (Binary f)) = readNumeral? (signText negative ++ c :: cs) := by
  -- No word stands for a number that starts with a digit.
  have word : ∀ w : String, w.toList.any Char.isDigit = false → String.ofList (signText negative ++ c :: cs) ≠ w := by
    rintro w none rfl
    simp [digit] at none
  unfold read?
  split
  · next same => exact absurd same (word _ rfl)
  · next same => exact absurd same (word _ rfl)
  · next same => exact absurd same (word _ rfl)
  · next same => exact absurd same (word _ rfl)
  · rfl

theorem exists_digit_text (s : Scientific) : ∃ c cs, s.text = c :: cs ∧ c.isDigit = true := by
  unfold Scientific.text
  dsimp only
  split
  · exact ⟨'0', _, rfl, rfl⟩
  · next first rest kept =>
    refine ⟨first, _, rfl, isDigit_of_mem_natText (n := s.digits) ?_⟩
    have member : first ∈ ((natText s.digits).reverse.dropWhile (· == '0')).reverse := kept ▸ List.mem_cons_self
    exact List.mem_reverse.mp (List.dropWhile_subset _ (List.mem_reverse.mp member))

theorem read?_scientific (s : Scientific) :
    (read? (signText negative ++ s.text) : Option (Binary f)) = some (ofScientific negative s.digits s.exponent) := by
  obtain ⟨c, cs, same, digit⟩ := exists_digit_text s
  rw [same, read?_eq_readNumeral? digit, ← same, readNumeral?_text]

/-! ## Shortest digits -/

theorem le_of_mem_neighbours {expansion dropped candidate : Nat} (member : candidate ∈ neighbours expansion dropped) :
    candidate ≤ expansion / 10 ^ dropped + 1 := by
  unfold neighbours at member
  dsimp only at member
  split at member
  · simp at member
    omega
  · split at member <;> simp at member <;> omega

/-- The digits found are nearest to the number, and not longer than its expansion by more than a carry. -/
theorem shortestFrom_spec {units : Nat} (holds : f.Holds units) (most : Nat) :
    let found := shortestFrom f units (units * 5 ^ f.scale) most
    f.nearest (found.1 * 10 ^ found.2) (5 ^ f.scale) = units ∧ found.2 ≤ most ∧
      found.1 ≤ units * 5 ^ f.scale / 10 ^ found.2 + 1 := by
  fun_induction shortestFrom f units (units * 5 ^ f.scale) most with
  | case1 =>
    refine ⟨?_, Nat.le_refl 0, ?_⟩
    · rw [Nat.pow_zero, Nat.mul_one]
      exact Format.nearest_of_holds holds (Nat.pow_pos (by decide))
    · simp
  | case2 dropped candidate found =>
    have reads : readsBack f units (dropped + 1) candidate = true := List.find?_some found
    exact ⟨beq_iff_eq.mp reads, Nat.le_refl _, le_of_mem_neighbours (List.mem_of_find?_eq_some found)⟩
  | case3 dropped none ih => exact ⟨ih.1, Nat.le_succ_of_le ih.2.1, ih.2.2⟩

theorem nearest_zero (f : Format) {den : Nat} (positive : 0 < den) : f.nearest 0 den = 0 := by
  have holds : f.Holds 0 := ⟨Nat.dvd_zero _, Nat.two_pow_pos _⟩
  simpa using Format.nearest_of_holds holds positive

theorem length_expansion_le {units : Nat} (holds : f.Holds units) (fine : 0 < f.scale) :
    (natText (units * 5 ^ f.scale)).length ≤ f.top + f.scale := by
  rw [length_natText_le_iff (by omega), Nat.pow_add]
  have whole : units < 10 ^ f.top := Nat.lt_of_lt_of_le holds.bounded (Nat.pow_le_pow_left (by decide) _)
  exact Nat.mul_lt_mul_of_lt_of_le whole (Nat.pow_le_pow_left (by decide) _) (Nat.pow_pos (by decide))

theorem ofScientific_shortest {units : Nat} (holds : f.Holds units) (fine : 0 < f.scale) :
    ofScientific negative (shortest f units).digits (shortest f units).exponent = .finite negative units holds := by
  have spec := shortestFrom_spec holds ((natText (units * 5 ^ f.scale)).length - 1)
  have length := length_expansion_le holds fine
  have expansion := lt_pow_length_natText (units * 5 ^ f.scale)
  unfold shortest
  dsimp only at spec ⊢
  generalize shortestFrom f units (units * 5 ^ f.scale) ((natText (units * 5 ^ f.scale)).length - 1) = found at spec ⊢
  generalize units * 5 ^ f.scale = whole at spec length expansion
  obtain ⟨nearest, most, close⟩ := spec
  by_cases zero : found.1 = 0
  · -- Only zero has zero for its digits.
    have none : units = 0 := by rw [← nearest, zero, Nat.zero_mul, nearest_zero f (Nat.pow_pos (by decide))]
    subst none
    rw [zero]
    exact ofUnits_of_nearest holds (nearest_zero f (by decide))
  · have positive := length_natText_pos whole
    have short : (natText found.1).length ≤ (natText whole).length - found.2 + 1 := by
      rw [length_natText_le_iff (by omega), Nat.pow_succ]
      have cut : whole / 10 ^ found.2 < 10 ^ ((natText whole).length - found.2) := by
        rw [Nat.div_lt_iff_lt_mul (Nat.pow_pos (by decide)), ← Nat.pow_add]
        rwa [Nat.sub_add_cancel (by omega)]
      omega
    have some := length_natText_pos found.1
    rw [ofScientific_eq f.scale zero (by omega) (by omega) (by omega), ofRatio]
    refine ofUnits_of_nearest holds ?_
    have exponent : ((found.2 : Int) - f.scale + f.scale).toNat = found.2 := by omega
    rw [exponent, show (10 : Nat) = 5 * 2 from rfl, Nat.mul_pow 5 2 f.scale, Format.nearest_mul (Nat.two_pow_pos _)]
    exact nearest

theorem read?_text (fine : 0 < f.scale) (b : Binary f) : read? b.text = some b := by
  cases b with
  | nan => rfl
  | infinite negative => cases negative <;> rfl
  | finite negative units holds =>
    have text : (Binary.finite negative units holds).text = signText negative ++ (shortest f units).text := rfl
    rw [text, read?_scientific, ofScientific_shortest holds fine]

theorem exists_read?_text {g : Format} (b : Binary f) : ∃ c : Binary g, read? b.text = some c := by
  cases b with
  | nan => exact ⟨.nan, rfl⟩
  | infinite negative => exact ⟨.infinite negative, by cases negative <;> rfl⟩
  | finite negative units holds => exact ⟨_, read?_scientific _⟩

end Binary

end TemplateQuery
