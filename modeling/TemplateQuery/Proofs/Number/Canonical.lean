import Mathlib.Computability.Language
import TemplateQuery.Proofs.Number.Decimals

/-! The canonical texts of decimals. Each is a word of one regular form and denotes its decimal exactly, so that the
texts of two decimals are the same just when their numbers are. A decimal has none if its zeros at the end reach down to
the least scale. -/

set_option autoImplicit false

namespace TemplateQuery

open scoped Computability

open Number

/-! ## The form -/

namespace Number

def oneOf (among : Char → Bool) : Language Char := {w | ∃ c, among c = true ∧ w = [c]}

def digit : Language Char := oneOf Char.isDigit

def nonzeroDigit : Language Char := oneOf fun c => c.isDigit && c != '0'

def wholeForm : Language Char := {['0']} + nonzeroDigit * digit∗

def fractionForm : Language Char := digit + digit∗ * nonzeroDigit

/-- Both around the point, with a minus sign in front or without: `-?(0|[1-9][0-9]*)[.]([0-9]|[0-9]*[1-9])`. -/
def canonicalForm : Language Char := (1 + {['-']}) * wholeForm * {['.']} * fractionForm

theorem mem_digits_iff {w : List Char} : w ∈ digit∗ ↔ ∀ c ∈ w, c.isDigit = true := by
  rw [Language.mem_kstar]
  constructor
  · rintro ⟨parts, rfl, single⟩ c member
    obtain ⟨part, inside, among⟩ := List.mem_flatten.mp member
    obtain ⟨d, digit, rfl⟩ := single part inside
    rwa [List.mem_singleton.mp among]
  · intro digits
    refine ⟨w.map fun c => [c], (List.flatMap_singleton' w).symm, ?_⟩
    intro part member
    obtain ⟨c, inside, rfl⟩ := List.mem_map.mp member
    exact ⟨c, digits c inside, rfl⟩

theorem mem_nonzeroDigit {c : Char} (digit : c.isDigit = true) (nonzero : c ≠ '0') : [c] ∈ nonzeroDigit :=
  ⟨c, by simp [digit, nonzero], rfl⟩

theorem zero_mem_wholeForm : ['0'] ∈ wholeForm := (Language.mem_add _ _ _).mpr (.inl rfl)

theorem zero_mem_fractionForm : ['0'] ∈ fractionForm := (Language.mem_add _ _ _).mpr (.inl ⟨'0', rfl, rfl⟩)

theorem mem_wholeForm {c : Char} {w : List Char} (digits : ∀ d ∈ c :: w, d.isDigit = true) (nonzero : c ≠ '0') :
    c :: w ∈ wholeForm := by
  obtain ⟨first, rest⟩ := List.forall_mem_cons.mp digits
  refine (Language.mem_add _ _ _).mpr (.inr (Language.mem_mul.mpr ?_))
  exact ⟨[c], mem_nonzeroDigit first nonzero, w, mem_digits_iff.mpr rest, rfl⟩

theorem mem_fractionForm {c : Char} {w : List Char} (digits : ∀ d ∈ w ++ [c], d.isDigit = true) (nonzero : c ≠ '0') :
    w ++ [c] ∈ fractionForm := by
  obtain ⟨front, last⟩ := List.forall_mem_append.mp digits
  refine (Language.mem_add _ _ _).mpr (.inr (Language.mem_mul.mpr ?_))
  exact ⟨w, mem_digits_iff.mpr front, [c], mem_nonzeroDigit (last c List.mem_cons_self) nonzero, rfl⟩

theorem mem_canonicalForm (negative : Bool) {whole fraction : List Char} (before : whole ∈ wholeForm)
    (behind : fraction ∈ fractionForm) : signText negative ++ whole ++ '.' :: fraction ∈ canonicalForm := by
  have sign : signText negative ∈ (1 + {['-']} : Language Char) := by
    rw [Language.mem_add]
    cases negative with
    | true => exact .inr rfl
    | false => exact .inl rfl
  have point : ['.'] ∈ ({['.']} : Language Char) := rfl
  have pointed := Language.mem_mul.mpr ⟨_, Language.mem_mul.mpr ⟨_, sign, _, before, rfl⟩, _, point, rfl⟩
  exact Language.mem_mul.mpr ⟨_, pointed, _, behind, by simp⟩

theorem isDigits_of_mem_wholeForm {w : List Char} (member : w ∈ wholeForm) : IsDigits w := by
  rcases (Language.mem_add _ _ _).mp member with zero | longer
  · obtain rfl : w = ['0'] := zero
    exact ⟨List.cons_ne_nil _ _, List.forall_mem_singleton.mpr rfl⟩
  · obtain ⟨_, ⟨c, first, rfl⟩, rest, digits, rfl⟩ := Language.mem_mul.mp longer
    rw [Bool.and_eq_true] at first
    exact ⟨List.cons_ne_nil c rest, List.forall_mem_cons.mpr ⟨first.1, mem_digits_iff.mp digits⟩⟩

/-! ## The number denoted -/

def magnitude (cs : List Char) : ℚ :=
  let fraction := (cs.dropWhile (· != '.')).tail
  ofDigits (cs.takeWhile (· != '.')) + ofDigits fraction / 10 ^ fraction.length

def denoted : List Char → ℚ
  | '-' :: cs => -magnitude cs
  | cs => magnitude cs

theorem magnitude_digits {whole : List Char} (digits : ∀ c ∈ whole, c.isDigit = true) (fraction : List Char) :
    magnitude (whole ++ '.' :: fraction) = ofDigits (whole ++ fraction) / 10 ^ fraction.length := by
  have clear : ∀ c ∈ whole, (c != '.') = true := by
    intro c member
    rw [bne_iff_ne]
    exact ne_of_isDigit (digits c member) rfl
  have before : (whole ++ '.' :: fraction).takeWhile (· != '.') = whole := by
    rw [List.takeWhile_append_of_pos clear]
    simp
  have behind : ((whole ++ '.' :: fraction).dropWhile (· != '.')).tail = fraction := by
    rw [List.dropWhile_append_of_pos clear]
    simp
  have power : (10 : ℚ) ^ fraction.length ≠ 0 := pow_ne_zero _ (by norm_num)
  unfold magnitude
  simp only [before, behind, ofDigits_append]
  push_cast
  field_simp

theorem denoted_digits (negative : Bool) {whole : List Char} (before : whole ∈ wholeForm) (fraction : List Char) :
    denoted (signText negative ++ whole ++ '.' :: fraction) =
      Decimal.scaled (if negative then -(ofDigits (whole ++ fraction) : Int) else ofDigits (whole ++ fraction))
        fraction.length := by
  obtain ⟨nonempty, digits⟩ := isDigits_of_mem_wholeForm before
  have number := magnitude_digits digits fraction
  cases negative with
  | true =>
    have signed : denoted (signText true ++ whole ++ '.' :: fraction) = -magnitude (whole ++ '.' :: fraction) := rfl
    rw [signed, number]
    simp [Decimal.scaled, div_eq_mul_inv]
  | false =>
    have unsigned : denoted (signText false ++ whole ++ '.' :: fraction) = magnitude (whole ++ '.' :: fraction) := by
      obtain ⟨c, rest, rfl⟩ := List.exists_cons_of_ne_nil nonempty
      have digit := digits c List.mem_cons_self
      unfold denoted
      split
      · next same =>
        cases same
        cases digit
      · rfl
    rw [unsigned, number]
    simp [Decimal.scaled, div_eq_mul_inv]

theorem head_natText {n : Nat} (positive : 0 < n) : ∃ c cs, natText n = c :: cs ∧ c ≠ '0' := by
  induction n using Nat.strongRecOn with
  | ind n ih =>
    by_cases small : n < 10
    · have digits : ∀ d < 10, 0 < d → Nat.digitChar d ≠ '0' := by decide
      exact ⟨_, [], Nat.toDigits_of_lt_base small, digits n small positive⟩
    · obtain ⟨c, cs, higher, nonzero⟩ := ih (n / 10) (by omega) (by omega)
      refine ⟨c, cs ++ [Nat.digitChar (n % 10)], ?_, nonzero⟩
      rw [natText, Nat.toDigits_of_base_le (by decide) (by omega), ← natText, higher, List.cons_append]

/-! ## The texts -/

section Texts

variable {n : Nat}

theorem mem_wholeForm_natText (positive : 0 < n) (k : Nat) : natText n ++ List.replicate k '0' ∈ wholeForm := by
  obtain ⟨c, cs, same, nonzero⟩ := head_natText positive
  rw [same, List.cons_append]
  refine mem_wholeForm ?_ nonzero
  rw [← List.cons_append, ← same, ← natText_mul_pow positive]
  exact fun d => isDigit_of_mem_natText

/-- A run of digits that does not end in zero, cut before as many places as are wanted. Zeros in front make it as long
as that needs. -/
theorem mem_forms_cut (unpadded : n % 10 ≠ 0) {places : Nat} (wanted : 0 < places) :
    let run := List.replicate (places + 1 - (natText n).length) '0' ++ natText n
    run.take (run.length - places) ∈ wholeForm ∧ run.drop (run.length - places) ∈ fractionForm ∧
      (run.drop (run.length - places)).length = places := by
  intro run
  have digits : ∀ c ∈ run, c.isDigit = true := (isDigits_zeros _ _).2
  have length : run.length = places + 1 - (natText n).length + (natText n).length := by simp [run]
  refine ⟨?_, ?_, by rw [List.length_drop]; omega⟩
  · by_cases short : (natText n).length ≤ places
    · -- One zero stands before the point, and all others behind it.
      have one : run.length - places = 1 := by omega
      have zeros : places + 1 - (natText n).length = places - (natText n).length + 1 := by omega
      have first : run.take 1 = ['0'] := by
        simp only [run, zeros, List.replicate_succ, List.cons_append]
        rfl
      rw [one, first]
      exact zero_mem_wholeForm
    · have bare : run = natText n := by simp [run, show places + 1 - (natText n).length = 0 by omega]
      obtain ⟨c, cs, same, nonzero⟩ := head_natText (show 0 < n by omega)
      obtain ⟨kept, positive⟩ : ∃ kept, run.length - places = kept + 1 := ⟨run.length - places - 1, by omega⟩
      rw [positive, bare, same, List.take_succ_cons]
      rw [bare, same] at digits
      exact mem_wholeForm (fun d member => digits d (List.mem_of_mem_take (i := kept + 1) member)) nonzero
  · -- The last digit is behind the point, and it is no zero.
    obtain ⟨front, last, ends, nonzero⟩ := exists_last unpadded
    have split : run = List.replicate (places + 1 - (natText n).length) '0' ++ front ++ [last] := by
      simp only [run, ends, List.append_assoc]
    have cut : run.drop (run.length - places) =
        (List.replicate (places + 1 - (natText n).length) '0' ++ front).drop (run.length - places) ++ [last] := by
      have digit : (natText n).length = front.length + 1 := by simp [ends]
      have shorter : (List.replicate (places + 1 - (natText n).length) '0' ++ front).length =
          places + 1 - (natText n).length + front.length := by simp
      exact (congrArg (List.drop _) split).trans (List.drop_append_of_le_length (by omega))
    rw [cut]
    refine mem_fractionForm (fun d member => ?_) nonzero
    rw [← cut] at member
    exact digits d (List.mem_of_mem_drop member)

end Texts

end Number

namespace Decimal

structure Spells (digits scale : Int) (negative : Bool) (whole fraction : List Char) : Prop where
  text : spelled digits scale = signText negative ++ whole ++ '.' :: fraction
  before : whole ∈ wholeForm
  behind : fraction ∈ fractionForm
  value : scaled (if negative then -(ofDigits (whole ++ fraction) : Int) else ofDigits (whole ++ fraction))
    fraction.length = scaled digits scale

theorem spells_zero : Spells 0 0 false ['0'] ['0'] where
  text := rfl
  before := zero_mem_wholeForm
  behind := zero_mem_fractionForm
  value := (scaled_eq_zero_iff.mpr rfl).trans (scaled_eq_zero_iff.mpr rfl).symm

theorem exists_spells_of_unpadded {m : Int} (unpadded : m % 10 ≠ 0) (scale : Int) :
    ∃ negative whole fraction, Spells m scale negative whole fraction := by
  have text := spelled.eq_1 m scale
  simp only [← signText_decide] at text
  by_cases whole : scale ≤ 0
  · rw [if_pos whole, if_neg (show m ≠ 0 by omega)] at text
    refine ⟨decide (m < 0), natText m.natAbs ++ List.replicate scale.natAbs '0', ['0'], by simp [text],
      mem_wholeForm_natText (by omega) _, zero_mem_fractionForm, ?_⟩
    have places : scale + (scale.natAbs + 1 : Nat) = 1 := by omega
    rw [ofDigits_zeros, signed_natAbs, ← scaled_mul_pow m (scale.natAbs + 1) scale, places]
    rfl
  · rw [if_neg whole] at text
    obtain ⟨before, behind, places⟩ := mem_forms_cut (n := m.natAbs) (by omega) (show 0 < scale.natAbs by omega)
    refine ⟨decide (m < 0), _, _, text, before, behind, ?_⟩
    have digits := signed_natAbs m 0
    simp only [pow_zero, mul_one] at digits
    rw [List.take_append_drop, places, ofDigits_replicate, ofDigits_natText, digits]
    congr 1
    omega

theorem exists_spells (d : Decimal) :
    ∃ negative whole fraction, Spells d.normalForm.1 d.normalForm.2 negative whole fraction := by
  by_cases zero : d.digits = 0
  · rw [normalForm_of_zero zero]
    exact ⟨_, _, _, spells_zero⟩
  · obtain ⟨m, zeros, unpadded, -, normal⟩ := exists_normalForm zero
    rw [normal]
    exact exists_spells_of_unpadded unpadded _

section Written

variable {d : Decimal} {cs : List Char} (written : d.text = some cs)
include written

theorem mem_canonicalForm_of_text : cs ∈ canonicalForm := by
  obtain ⟨-, rfl⟩ := text_eq_some_iff.mp written
  obtain ⟨negative, whole, fraction, spells⟩ := exists_spells d
  rw [spells.text]
  exact mem_canonicalForm negative spells.before spells.behind

theorem denoted_of_text : denoted cs = d.value := by
  obtain ⟨-, rfl⟩ := text_eq_some_iff.mp written
  obtain ⟨negative, whole, fraction, spells⟩ := exists_spells d
  rw [spells.text, denoted_digits negative spells.before, spells.value, scaled_normalForm]

theorem ne_signed_zero_of_text : cs ≠ "-0.0".toList := by
  rintro rfl
  have vanishes : d.value = 0 := by
    rw [← denoted_of_text written]
    exact (denoted_digits true zero_mem_wholeForm ['0']).trans (scaled_eq_zero_iff.mpr rfl)
  obtain ⟨-, signed⟩ := text_eq_some_iff.mp written
  rw [normalForm_of_zero (scaled_eq_zero_iff.mp vanishes)] at signed
  exact absurd signed (by decide)

end Written

theorem pow_dvd_iff {m : Int} (unpadded : m % 10 ≠ 0) (places zeros : Nat) :
    (10 : Int) ^ places ∣ m * 10 ^ zeros ↔ places ≤ zeros := by
  constructor
  · intro divides
    by_contra less
    have more : (10 : Int) ^ (zeros + 1) ∣ m * 10 ^ zeros := (pow_dvd_pow 10 (by omega)).trans divides
    rw [pow_succ, mul_comm _ (10 : Int), mul_dvd_mul_iff_right (Int.pow_ne_zero (by decide))] at more
    omega
  · intro enough
    exact (pow_dvd_pow 10 enough).mul_left m

/-- A decimal has no text just when its zeros at the end reach down to the least scale. -/
theorem text_eq_none_iff (d : Decimal) :
    d.text = none ↔ d.digits ≠ 0 ∧ (10 : Int) ^ (d.scale.toInt + 2 ^ 63).toNat ∣ d.digits := by
  rw [text_eq, ite_eq_right_iff]
  simp only [reduceCtorEq, imp_false]
  by_cases zero : d.digits = 0
  · rw [normalForm_of_zero zero]
    simp [zero]
  · obtain ⟨m, zeros, unpadded, digits, normal⟩ := exists_normalForm zero
    have least := d.scale.le_toInt
    rw [and_iff_right zero, normal, digits, pow_dvd_iff unpadded]
    dsimp only
    omega

/-- A decimal has a canonical text unless its zeros at the end reach down to the least scale. The text has one form and
denotes the decimal, with no sign before zero; and it is the text of the decimals of the same number alone. -/
theorem text_canonical_unless_least (d : Decimal) :
    (d.text = none ↔ d.digits ≠ 0 ∧ (10 : Int) ^ (d.scale.toInt + 2 ^ 63).toNat ∣ d.digits) ∧
    ∀ cs, d.text = some cs → cs ∈ canonicalForm ∧ cs ≠ "-0.0".toList ∧ denoted cs = d.value ∧
      ∀ e : Decimal, e.text = some cs ↔ e.value = d.value := by
  refine ⟨text_eq_none_iff d, fun cs written => ⟨mem_canonicalForm_of_text written, ne_signed_zero_of_text written,
    denoted_of_text written, fun e => ⟨fun same => ?_, fun same => ?_⟩⟩⟩
  · rw [← denoted_of_text same, denoted_of_text written]
  · rw [text_congr same, written]

/-- Minus fifty thousandths are written with two places. There is no text at the least scale, nor for ten at the one
above it. -/
theorem text_canonical_unless_least_thousandths :
    Decimal.text ⟨-50, 3⟩ = some "-0.05".toList ∧ "-0.05".toList ∈ canonicalForm ∧
    denoted "-0.05".toList = Decimal.value ⟨-50, 3⟩ ∧
    Decimal.text ⟨-5, 2⟩ = some "-0.05".toList ∧ Decimal.text ⟨10, -9223372036854775807⟩ = none ∧
    Decimal.text ⟨1, .minValue⟩ = none := by
  have written : Decimal.text ⟨-50, 3⟩ = some "-0.05".toList := by decide
  obtain ⟨form, -, exact, unique⟩ := (text_canonical_unless_least ⟨-50, 3⟩).2 _ written
  have padded : Padded ⟨-5, 2⟩ ⟨-50, 3⟩ 1 := ⟨rfl, rfl⟩
  have counted : ((-9223372036854775807 : Int64).toInt + 2 ^ 63).toNat = 1 := by decide
  refine ⟨written, form, exact, (unique ⟨-5, 2⟩).mpr padded.value.symm, ?_, ?_⟩
  · refine (text_canonical_unless_least _).1.mpr ⟨by decide, ?_⟩
    rw [counted]
    exact ⟨1, rfl⟩
  · refine (text_canonical_unless_least _).1.mpr ⟨by decide, ?_⟩
    exact ⟨1, rfl⟩

end Decimal

end TemplateQuery
