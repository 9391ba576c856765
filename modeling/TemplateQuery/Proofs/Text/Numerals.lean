import Mathlib.Algebra.Group.Nat.Defs
import TemplateQuery.Number.Digits
import TemplateQuery.Text.Hex

/-! Numerals: hexadecimal code points of fixed width, and the texts that whole numbers are read from, among them those
that they are written with. -/

set_option autoImplicit false

namespace TemplateQuery

namespace Text

theorem hexValue?_digit : ∀ d : Nat, d < 16 → hexValue? (((Nat.toDigits 16 d).headD '0').toUpper) = some d := by
  decide

theorem hexValue?_hexDigit (n : Nat) : hexValue? (hexDigit n).toUpper = some (n % 16) :=
  hexValue?_digit (n % 16) (Nat.mod_lt n (by decide))

theorem hexNumber?_append (front : List Char) (c : Char) :
    hexNumber? (front ++ [c]) = (hexNumber? front).bind fun n => (hexValue? c).map (n * 16 + ·) := by
  simp [hexNumber?, List.foldl_append]

theorem hexNumber?_hexTextUpper (width n : Nat) (fits : n < 16 ^ width) :
    hexNumber? (hexTextUpper width n) = some n := by
  induction width generalizing n with
  | zero =>
    have : n = 0 := by simpa using fits
    subst this
    rfl
  | succ width ih =>
    have higher : n / 16 < 16 ^ width := Nat.div_lt_of_lt_mul (by rw [Nat.mul_comm, ← Nat.pow_succ]; exact fits)
    have digits : hexTextUpper (width + 1) n = hexTextUpper width (n / 16) ++ [(hexDigit n).toUpper] := by
      simp [hexTextUpper, hexText]
    rw [digits, hexNumber?_append, ih (n / 16) higher, hexValue?_hexDigit]
    simp only [Option.map_some, Option.bind_some, Option.some.injEq]
    omega

theorem isHex_of_mem_hexTextUpper {width n : Nat} {c : Char} (member : c ∈ hexTextUpper width n) :
    isHex c = true := by
  induction width generalizing n with
  | zero => simp [hexTextUpper, hexText] at member
  | succ width ih =>
    rw [hexTextUpper, hexText, List.map_append, List.mem_append] at member
    rcases member with higher | last
    · exact ih higher
    · obtain rfl : c = (hexDigit n).toUpper := by simpa using last
      simp [isHex, hexValue?_hexDigit]

theorem charOf?_toNat (c : Char) : charOf? c.toNat = some c := by
  unfold charOf?
  have valid : c.toNat.isValidChar := c.valid
  rw [dif_pos valid]
  rfl

end Text

namespace Number

theorem isDigit_of_mem_natText {n : Nat} {c : Char} (member : c ∈ natText n) : c.isDigit = true :=
  Nat.isDigit_of_mem_toDigits (by decide) (by decide) member

theorem natText_ne_nil (n : Nat) : natText n ≠ [] := Nat.toDigits_ne_nil

@[simp]
theorem ofDigits_natText (n : Nat) : ofDigits (natText n) = n := Nat.ofDigitChars_ten_toDigits

theorem ne_of_isDigit {c d : Char} (digit : c.isDigit = true) (other : d.isDigit = false) : c ≠ d := by
  rintro rfl
  rw [digit] at other
  cases other

/-! ## Signs and digits -/

def IsDigits (cs : List Char) : Prop := cs ≠ [] ∧ ∀ c ∈ cs, c.isDigit = true

def IsSeparated : List Char → Prop
  | [] => False
  | c :: cs => c.isDigit = true ∧ ∀ d ∈ cs, d.isDigit = true ∨ d = '_'

def bare (cs : List Char) : List Char := cs.filter (· != '_')

inductive IsSign : List Char → Int → Prop
  | none : IsSign [] 1
  | plus : IsSign ['+'] 1
  | minus : IsSign ['-'] (-1)

/-- A whole number with an optional sign: the lexical space of integers. -/
inductive IntegerText : List Char → Int → Prop
  | mk {sign digits : List Char} {factor : Int} (front : IsSign sign factor) (rest : IsDigits digits) :
    IntegerText (sign ++ digits) (factor * ofDigits digits)

/-- The same with underscores behind the first digit, which count for nothing. -/
inductive Numeral : List Char → Int → Prop
  | mk {sign body : List Char} {factor : Int} (front : IsSign sign factor) (rest : IsSeparated body) :
    Numeral (sign ++ body) (factor * ofDigits (bare body))

theorem isSeparated_cases {body : List Char} (rest : IsSeparated body) :
    ∃ c cs, body = c :: cs ∧ c.isDigit = true ∧ ∀ d ∈ cs, d.isDigit = true ∨ d = '_' := by
  cases body with
  | nil => cases rest
  | cons c cs => exact ⟨c, cs, rfl, rest⟩

theorem isSeparated_of_isDigits {cs : List Char} (digits : IsDigits cs) : IsSeparated cs := by
  obtain ⟨nonempty, each⟩ := digits
  cases cs with
  | nil => exact absurd rfl nonempty
  | cons c cs => exact ⟨each c List.mem_cons_self, fun d member => .inl (each d (List.mem_cons_of_mem c member))⟩

theorem isDigits_of_isSeparated {cs : List Char} (rest : IsSeparated cs) (unmarked : '_' ∉ cs) : IsDigits cs := by
  obtain ⟨c, cs, rfl, first, others⟩ := isSeparated_cases rest
  refine ⟨List.cons_ne_nil c cs, List.forall_mem_cons.mpr ⟨first, fun d member => ?_⟩⟩
  exact (others d member).resolve_right fun mark => unmarked (mark ▸ List.mem_cons_of_mem c member)

theorem not_mem_of_isDigits {cs : List Char} (digits : IsDigits cs) {c : Char} (other : c.isDigit = false) :
    c ∉ cs :=
  fun member => ne_of_isDigit (digits.2 c member) other rfl

@[simp]
theorem bare_eq_self {cs : List Char} : bare cs = cs ↔ '_' ∉ cs := by
  simp only [bare, List.filter_eq_self, bne_iff_ne]
  exact ⟨fun each member => each '_' member rfl, fun unmarked c member same => unmarked (same ▸ member)⟩

theorem not_mem_sign {sign : List Char} {factor : Int} (front : IsSign sign factor) {c : Char}
    (other : c ≠ '+' ∧ c ≠ '-') : c ∉ sign := by
  cases front <;> simp [other]

theorem unsigned_of_isDigit {c : Char} (digit : c.isDigit = true) : c ≠ '+' ∧ c ≠ '-' :=
  ⟨ne_of_isDigit digit rfl, ne_of_isDigit digit rfl⟩

/-- A text in two parts that is a sign and something else has the sign in its first part, unless that is empty. -/
theorem IsSign.split {sign rest before after : List Char} {factor : Int} (front : IsSign sign factor)
    (joined : before ++ after = sign ++ rest) (starts : before = [] → sign = []) :
    ∃ inner, before = sign ++ inner ∧ inner ++ after = rest := by
  cases front with
  | none => exact ⟨before, rfl, joined⟩
  | plus | minus =>
    cases before with
    | nil => cases starts rfl
    | cons c inner =>
      obtain ⟨rfl, later⟩ := List.cons.inj joined
      exact ⟨inner, rfl, later⟩

theorem Numeral.mem {cs : List Char} {n : Int} (read : Numeral cs n) {c : Char} (member : c ∈ cs) :
    c.isDigit = true ∨ c = '_' ∨ c = '+' ∨ c = '-' := by
  obtain @⟨sign, body, factor, front, rest⟩ := read
  rcases List.mem_append.mp member with inSign | inBody
  · cases front with
    | none => cases inSign
    | plus => exact .inr (.inr (.inl (List.mem_singleton.mp inSign)))
    | minus => exact .inr (.inr (.inr (List.mem_singleton.mp inSign)))
  · obtain ⟨d, cs, rfl, first, others⟩ := isSeparated_cases rest
    rcases List.mem_cons.mp inBody with rfl | later
    · exact .inl first
    · rcases others c later with digit | mark
      · exact .inl digit
      · exact .inr (.inl mark)

theorem Numeral.not_mem {cs : List Char} {n : Int} (read : Numeral cs n) {c : Char}
    (other : c.isDigit = false ∧ c ≠ '_' ∧ c ≠ '+' ∧ c ≠ '-') : c ∉ cs := by
  intro member
  have inside := read.mem member
  grind

theorem numeral_plus_iff {cs : List Char} {n : Int} :
    Numeral ('+' :: cs) n ↔ Numeral cs n ∧ ∀ c ∈ cs.head?, c ≠ '+' ∧ c ≠ '-' := by
  constructor
  · intro read
    generalize whole : '+' :: cs = text at read
    obtain @⟨sign, body, factor, front, rest⟩ := read
    obtain ⟨c, tail, rfl, first, -⟩ := isSeparated_cases rest
    have unsigned := unsigned_of_isDigit first
    cases front with
    | none => exact absurd (List.cons.inj whole).1.symm unsigned.1
    | plus =>
      obtain ⟨-, rfl⟩ := List.cons.inj whole
      exact ⟨Numeral.mk .none rest, by simpa using unsigned⟩
    | minus => exact absurd (List.cons.inj whole).1 (by decide)
  · rintro ⟨read, unsigned⟩
    obtain @⟨sign, body, factor, front, rest⟩ := read
    cases front with
    | none => exact Numeral.mk .plus rest
    | plus => exact absurd rfl (unsigned '+' rfl).1
    | minus => exact absurd rfl (unsigned '-' rfl).2

theorem integerText_iff {cs : List Char} {n : Int} : IntegerText cs n ↔ Numeral cs n ∧ '_' ∉ cs := by
  constructor
  · rintro @⟨sign, digits, factor, front, rest⟩
    have unmarked : '_' ∉ digits := not_mem_of_isDigits rest (by decide)
    refine ⟨?_, by simp [unmarked, not_mem_sign front]⟩
    have read := Numeral.mk front (isSeparated_of_isDigits rest)
    rwa [bare_eq_self.mpr unmarked] at read
  · rintro ⟨@⟨sign, body, factor, front, rest⟩, unmarked⟩
    have clear : '_' ∉ body := fun member => unmarked (List.mem_append_right sign member)
    rw [bare_eq_self.mpr clear]
    exact IntegerText.mk front (isDigits_of_isSeparated rest clear)

theorem readMagnitude?_eq_some_iff {cs : List Char} {n : Nat} :
    readMagnitude? cs = some n ↔ IsSeparated cs ∧ ofDigits (bare cs) = n := by
  cases cs with
  | nil => simp [readMagnitude?, IsSeparated]
  | cons c cs => simp [readMagnitude?, IsSeparated, bare]

theorem readInteger?_of_readMagnitude? {cs : List Char} {n : Nat} (read : readMagnitude? cs = some n) :
    readInteger? cs = some (n : Int) := by
  obtain ⟨c, rest, rfl, digit, -⟩ := isSeparated_cases (readMagnitude?_eq_some_iff.mp read).1
  have unsigned := unsigned_of_isDigit digit
  unfold readInteger?
  split
  · next same => exact absurd (List.cons.inj same).1 unsigned.2
  · next same => exact absurd (List.cons.inj same).1 unsigned.1
  · rw [read]
    rfl

theorem readInteger?_eq_some_iff {cs : List Char} {n : Int} : readInteger? cs = some n ↔ Numeral cs n := by
  constructor
  · intro read
    unfold readInteger? at read
    split at read
    · next cs =>
      obtain ⟨m, magnitude, rfl⟩ : ∃ m, readMagnitude? cs = some m ∧ -(m : Int) = n := by
        simpa [Option.bind_eq_some_iff] using read
      obtain ⟨rest, rfl⟩ := readMagnitude?_eq_some_iff.mp magnitude
      simpa using Numeral.mk .minus rest
    all_goals
      obtain ⟨m, magnitude, rfl⟩ := Option.map_eq_some_iff.mp read
      obtain ⟨rest, rfl⟩ := readMagnitude?_eq_some_iff.mp magnitude
    · simpa using Numeral.mk .plus rest
    · simpa using Numeral.mk .none rest
  · rintro @⟨sign, body, factor, front, rest⟩
    have magnitude : readMagnitude? body = some (ofDigits (bare body)) := readMagnitude?_eq_some_iff.mpr ⟨rest, rfl⟩
    cases front with
    | none => simpa using readInteger?_of_readMagnitude? magnitude
    | plus => simp [readInteger?, magnitude]
    | minus => simp [readInteger?, magnitude]

theorem readExponent?_eq_some_iff {cs : List Char} {n : Int} : readExponent? cs = some n ↔ IntegerText cs n := by
  rw [integerText_iff, ← readInteger?_eq_some_iff, readExponent?]
  by_cases mark : '_' ∈ cs
  · simp [mark]
  · simp [mark]

/-! ## Canonical texts -/

theorem isDigits_natText (n : Nat) : IsDigits (natText n) := ⟨natText_ne_nil n, fun _ => isDigit_of_mem_natText⟩

theorem exists_cons_natText (n : Nat) : ∃ c cs, natText n = c :: cs ∧ c.isDigit = true := by
  obtain ⟨c, cs, same⟩ := List.exists_cons_of_ne_nil (natText_ne_nil n)
  exact ⟨c, cs, same, isDigit_of_mem_natText (same ▸ List.mem_cons_self)⟩

theorem isDigit_of_mem_replicate {count : Nat} : ∀ c ∈ List.replicate count '0', c.isDigit = true := by
  intro c member
  rw [(List.mem_replicate.mp member).2]
  rfl

theorem IsDigits.append {front back : List Char} (first : IsDigits front) (later : ∀ c ∈ back, c.isDigit = true) :
    IsDigits (front ++ back) :=
  ⟨List.append_ne_nil_of_left_ne_nil first.1 back, List.forall_mem_append.mpr ⟨first.2, later⟩⟩

theorem isDigits_zeros (count n : Nat) : IsDigits (List.replicate count '0' ++ natText n) :=
  ⟨List.append_ne_nil_of_right_ne_nil _ (natText_ne_nil n),
    List.forall_mem_append.mpr ⟨isDigit_of_mem_replicate, (isDigits_natText n).2⟩⟩

theorem integerText_intText (n : Int) : IntegerText (intText n) n := by
  have digits := isDigits_natText n.natAbs
  unfold intText
  split
  · next negative =>
    have read := IntegerText.mk .minus digits
    rwa [ofDigits_natText, show -1 * (n.natAbs : Int) = n by omega] at read
  · next positive =>
    have read := IntegerText.mk .none digits
    rwa [ofDigits_natText, show 1 * (n.natAbs : Int) = n by omega] at read

theorem readInteger?_intText (n : Int) : readInteger? (intText n) = some n :=
  readInteger?_eq_some_iff.mpr (integerText_iff.mp (integerText_intText n)).1

theorem readExponent?_intText (n : Int) : readExponent? (intText n) = some n :=
  readExponent?_eq_some_iff.mpr (integerText_intText n)

theorem not_mem_intText {c : Char} (other : c.isDigit = false ∧ c ≠ '-') (n : Int) : c ∉ intText n := by
  have digits : c ∉ natText n.natAbs := not_mem_of_isDigits (isDigits_natText _) other.1
  unfold intText
  split
  · simp [digits, other.2]
  · exact digits

end Number

end TemplateQuery
