import TemplateQuery.Proofs.Value.Rereading
import TemplateQuery.Value.Cast

/-! The texts that are read as integers, decimals and truth values. All of the lexical spaces is read, with the value it
denotes; what is read beyond them is told in full, and is the same for literals and for casts except where a decimal
has an exponent. -/

set_option autoImplicit false

namespace TemplateQuery

open Number Vocabulary

/-! ## Integers -/

/-- What is read as an integer beyond the lexical space: underscores, and a second sign behind a plus sign. -/
inductive LooseInteger : List Char → Int → Prop
  | separated {cs : List Char} {n : Int} (read : Numeral cs n) (mark : '_' ∈ cs) : LooseInteger cs n
  | signedTwice {c : Char} {cs : List Char} {n : Int} (sign : c = '+' ∨ c = '-') (read : Numeral (c :: cs) n) :
    LooseInteger ('+' :: c :: cs) n

theorem LooseInteger.not_integerText {cs : List Char} {n m : Int} (loose : LooseInteger cs n) : ¬ IntegerText cs m := by
  rw [integerText_iff]
  rintro ⟨read, unmarked⟩
  cases loose with
  | separated _ mark => exact unmarked mark
  | signedTwice sign _ =>
    have unsigned := (numeral_plus_iff.mp read).2 _ rfl
    grind

theorem Value.readInteger?_eq_some_iff {cs : List Char} {n : Int} :
    Value.readInteger? cs = some n ↔ IntegerText cs n ∨ LooseInteger cs n := by
  have plain : Numeral cs n → IntegerText cs n ∨ LooseInteger cs n := by
    intro read
    by_cases mark : '_' ∈ cs
    · exact .inr (.separated read mark)
    · exact .inl (integerText_iff.mpr ⟨read, mark⟩)
  unfold Value.readInteger?
  split
  · next rest =>
    -- The plus sign is dropped before the rest is read, and the rest may have a sign again.
    rw [Number.readInteger?_eq_some_iff]
    constructor
    · intro read
      by_cases unsigned : ∀ c ∈ rest.head?, c ≠ '+' ∧ c ≠ '-'
      · exact plain (numeral_plus_iff.mpr ⟨read, unsigned⟩)
      · cases rest with
        | nil => simp at unsigned
        | cons c tail => exact .inr (.signedTwice (by simpa [imp_iff_not_or, or_comm] using unsigned) read)
    · rintro (strict | loose)
      · exact (numeral_plus_iff.mp (integerText_iff.mp strict).1).1
      · cases loose with
        | separated read _ => exact (numeral_plus_iff.mp read).1
        | signedTwice _ read => exact read
  · next unsigned =>
    rw [Number.readInteger?_eq_some_iff]
    refine ⟨plain, ?_⟩
    rintro (strict | loose)
    · exact (integerText_iff.mp strict).1
    · cases loose with
      | separated read _ => exact read
      | signedTwice _ _ => exact absurd rfl (unsigned _)

/-! ## Decimals -/

/-- Digits with at most one point, and an optional sign: the lexical space of decimals, with the digits and the scale
that a text stands for. -/
inductive DecimalText : List Char → Int → Int → Prop
  | whole {sign digits : List Char} {factor : Int} (front : IsSign sign factor) (rest : IsDigits digits) :
    DecimalText (sign ++ digits) (factor * ofDigits digits) 0
  /-- The point stands before, among or behind the digits. -/
  | point {sign before after : List Char} {factor : Int} (front : IsSign sign factor)
    (rest : IsDigits (before ++ after)) :
    DecimalText (sign ++ before ++ '.' :: after) (factor * ofDigits (before ++ after)) after.length

inductive Pointed : List Char → Int → Int → Prop
  | whole {cs : List Char} {n : Int} (read : Numeral cs n) : Pointed cs n 0
  | point {before after : List Char} {n : Int} (read : Numeral (before ++ after) n) :
    Pointed (before ++ '.' :: after) n (bare after).length

/-- What is read as a decimal beyond the lexical space: underscores, a sign behind the point, which is counted for a
place, and an exponent. -/
inductive LooseDecimal : List Char → Int → Int → Prop
  | separated {cs : List Char} {digits scale : Int} (read : Pointed cs digits scale) (mark : '_' ∈ cs) :
    LooseDecimal cs digits scale
  | signBehind {c : Char} {cs : List Char} {digits scale : Int} (sign : c = '+' ∨ c = '-')
      (read : Pointed ('.' :: c :: cs) digits scale) : LooseDecimal ('.' :: c :: cs) digits scale
  | exponent {cs written : List Char} {e : Char} {digits scale n : Int} (read : Pointed cs digits scale)
    (mark : Decimal.isExponentMark e = true) (power : IntegerText written n) :
    LooseDecimal (cs ++ e :: written) digits (scale - n)

section Decimals

variable {cs : List Char} {digits scale : Int}

theorem Pointed.mem (read : Pointed cs digits scale) {c : Char} (member : c ∈ cs) :
    c = '.' ∨ c.isDigit = true ∨ c = '_' ∨ c = '+' ∨ c = '-' := by
  cases read with
  | whole read => exact .inr (read.mem member)
  | point read =>
    rcases List.mem_append.mp member with before | after
    · exact .inr (read.mem (List.mem_append_left _ before))
    · rcases List.mem_cons.mp after with point | after
      · exact .inl point
      · exact .inr (read.mem (List.mem_append_right _ after))

theorem Pointed.not_exponentMark (read : Pointed cs digits scale) : ∀ c ∈ cs, Decimal.isExponentMark c = false := by
  intro c member
  rcases read.mem member with point | digit | rfl | rfl | rfl
  · exact Number.not_exponentMark (.inr point)
  · exact Number.not_exponentMark (.inl digit)
  all_goals decide

theorem decimalText_iff :
    DecimalText cs digits scale ↔
      Pointed cs digits scale ∧ '_' ∉ cs ∧ ∀ c rest, cs = '.' :: c :: rest → c ≠ '+' ∧ c ≠ '-' := by
  constructor
  · intro strict
    cases strict with
    | @whole sign digits factor front rest =>
      obtain ⟨read, unmarked⟩ := integerText_iff.mp (IntegerText.mk front rest)
      refine ⟨.whole read, unmarked, fun c tail same => ?_⟩
      exact absurd (same ▸ List.mem_cons_self) (read.not_mem (by decide))
    | @point sign before after factor front rest =>
      obtain ⟨read, unmarked⟩ := integerText_iff.mp (IntegerText.mk front rest)
      rw [← List.append_assoc] at read unmarked
      have places : bare after = after := bare_eq_self.mpr fun member => unmarked (List.mem_append_right _ member)
      refine ⟨by simpa [places] using Pointed.point read, by simpa using unmarked, fun c tail same => ?_⟩
      -- A text that starts with the point has neither a sign nor a digit before it.
      have none : sign ++ before = [] := by
        cases start : sign ++ before with
        | nil => rfl
        | cons first more =>
          rw [start] at same read
          obtain rfl : first = '.' := (List.cons.inj same).1
          exact absurd List.mem_cons_self (read.not_mem (by decide))
      rw [none, List.nil_append, List.cons.injEq] at same
      exact unsigned_of_isDigit (rest.2 c (by simp [same.2]))
  · rintro ⟨read, unmarked, unsigned⟩
    cases read with
    | whole read =>
      obtain ⟨front, rest⟩ := integerText_iff.mpr ⟨read, unmarked⟩
      exact .whole front rest
    | @point before after n read =>
      have clear : '_' ∉ before ++ after := by simpa using unmarked
      have places : bare after = after := bare_eq_self.mpr fun member => clear (List.mem_append_right _ member)
      rw [places]
      generalize joined : before ++ after = text at read clear
      obtain @⟨sign, digits, factor, front, rest⟩ := integerText_iff.mpr ⟨read, clear⟩
      -- The sign is the first character without the point; it is before the point unless nothing is.
      have starts : before = [] → sign = [] := by
        rintro rfl
        cases front with
        | none => rfl
        | plus => exact absurd rfl (unsigned '+' digits (congrArg ('.' :: ·) joined)).1
        | minus => exact absurd rfl (unsigned '-' digits (congrArg ('.' :: ·) joined)).2
      obtain ⟨inner, rfl, rfl⟩ := front.split joined starts
      exact .point front rest

theorem decimal_iff_pointed :
    DecimalText cs digits scale ∨ LooseDecimal cs digits scale ↔
      Pointed cs digits scale ∨ ∃ base e written n, cs = base ++ e :: written ∧ Decimal.isExponentMark e = true ∧
        IntegerText written n ∧ Pointed base digits (scale + n) := by
  constructor
  · rintro (strict | loose)
    · exact .inl (decimalText_iff.mp strict).1
    · cases loose with
      | separated read _ => exact .inl read
      | signBehind _ read => exact .inl read
      | @exponent base written e _ scale n read mark power =>
        exact .inr ⟨base, e, written, n, rfl, mark, power, by simpa using read⟩
  · rintro (read | ⟨base, e, written, n, rfl, mark, power, read⟩)
    · by_cases mark : '_' ∈ cs
      · exact .inr (.separated read mark)
      by_cases unsigned : ∀ c rest, cs = '.' :: c :: rest → c ≠ '+' ∧ c ≠ '-'
      · exact .inl (decimalText_iff.mpr ⟨read, mark, unsigned⟩)
      · simp only [not_forall] at unsigned
        obtain ⟨c, rest, rfl, sign⟩ := unsigned
        exact .inr (.signBehind (by grind) read)
    · have loose := LooseDecimal.exponent read mark power
      rw [add_sub_cancel_right] at loose
      exact .inr loose

theorem LooseDecimal.not_decimalText {digits' scale' : Int} (loose : LooseDecimal cs digits scale) :
    ¬ DecimalText cs digits' scale' := by
  rw [decimalText_iff]
  rintro ⟨read, unmarked, unsigned⟩
  cases loose with
  | separated _ mark => exact unmarked mark
  | signBehind sign _ =>
    have other := unsigned _ _ rfl
    grind
  | exponent _ mark _ =>
    have clear := read.not_exponentMark _ (List.mem_append_right _ List.mem_cons_self)
    rw [mark] at clear
    cases clear

end Decimals

namespace Decimal

theorem pointed_iff {cs : List Char} {digits scale : Int} :
    Pointed cs digits scale ↔ readInteger? (cutPoint cs).1 = some digits ∧ scale = (cutPoint cs).2 := by
  rw [readInteger?_eq_some_iff]
  constructor
  · intro read
    -- No numeral has a point, so the cut is at the one that stands in it.
    cases read with
    | whole read =>
      rw [cutPoint_of_absent (read.not_mem (by decide))]
      exact ⟨read, rfl⟩
    | point read =>
      rw [cutPoint_point fun member => read.not_mem (by decide) (List.mem_append_left _ member)]
      exact ⟨read, rfl⟩
  · rintro ⟨read, rfl⟩
    cases found : Text.splitAt? (· == '.') cs with
    | none =>
      rw [cutPoint, found] at read ⊢
      exact .whole read
    | some cut =>
      obtain ⟨c, point, rfl⟩ := Text.append_of_splitAt? found
      obtain rfl := eq_of_beq point
      rw [cutPoint, found] at read ⊢
      exact .point read

def ofBase? (base : List Char) (exponent : Int) : Option Decimal :=
  (readInteger? (cutPoint base).1).bind fun n => ofScale? n ((cutPoint base).2 - exponent)

theorem read?_eq (cs : List Char) :
    read? cs = match Text.splitAt? isExponentMark cs with
      | some (base, written) => (readExponent? written).bind (ofBase? base)
      | none => ofBase? cs 0 := by
  unfold read? ofBase?
  cases Text.splitAt? isExponentMark cs with
  | none => rfl
  | some cut => simp only [Option.bind_eq_bind, Option.bind_map, Function.comp_def]

theorem ofBase?_eq_some_iff {base : List Char} {exponent : Int} {d : Decimal} :
    ofBase? base exponent = some d ↔ Pointed base d.digits (d.scale.toInt + exponent) := by
  rw [pointed_iff, ofBase?, Option.bind_eq_some_iff]
  simp only [ofScale?_eq_some_iff]
  constructor
  · rintro ⟨n, read, rfl, places⟩
    exact ⟨read, by omega⟩
  · rintro ⟨read, places⟩
    exact ⟨d.digits, read, rfl, by omega⟩

theorem read?_eq_some_iff {cs : List Char} {d : Decimal} :
    read? cs = some d ↔ DecimalText cs d.digits d.scale.toInt ∨ LooseDecimal cs d.digits d.scale.toInt := by
  rw [decimal_iff_pointed, read?_eq]
  split
  · next base written found =>
    simp only [Option.bind_eq_some_iff, readExponent?_eq_some_iff, ofBase?_eq_some_iff]
    obtain ⟨e, mark, whole⟩ := Text.append_of_splitAt? found
    constructor
    · rintro ⟨n, power, read⟩
      exact .inr ⟨base, e, written, n, whole, mark, power, read⟩
    · rintro (read | ⟨_, _, _, n, rfl, mark, power, read⟩)
      · -- The mark is in the text, so it was read with an exponent and no other way.
        rw [read.not_exponentMark e (by simp [whole])] at mark
        cases mark
      · rw [Text.splitAt?_cut read.not_exponentMark mark] at found
        cases found
        exact ⟨n, power, read⟩
  · next found =>
    have clear := Text.splitAt?_eq_none_iff.mp found
    rw [ofBase?_eq_some_iff, add_zero]
    refine ⟨.inl, ?_⟩
    rintro (read | ⟨base, e, written, n, rfl, mark, -⟩)
    · exact read
    · rw [clear e (by simp)] at mark
      cases mark

end Decimal

/-! ## Literals and casts -/

inductive BooleanText : List Char → Bool → Prop
  | yes : BooleanText ['t', 'r', 'u', 'e'] true
  | one : BooleanText ['1'] true
  | no : BooleanText ['f', 'a', 'l', 's', 'e'] false
  | zero : BooleanText ['0'] false

namespace Value

theorem readBool?_eq_some_iff {cs : List Char} {b : Bool} : readBool? cs = some b ↔ BooleanText cs b := by
  constructor
  · intro read
    unfold readBool? at read
    have written : ∀ {text : String}, String.ofList cs = text → cs = text.toList := by
      rintro text rfl
      rw [String.toList_ofList]
    split at read
    · next same => cases read; rw [written same]; exact .yes
    · next same => cases read; rw [written same]; exact .one
    · next same => cases read; rw [written same]; exact .no
    · next same => cases read; rw [written same]; exact .zero
    · cases read
  · rintro (_ | _ | _ | _) <;> rfl

def IsNative (datatype : String) : Value → Prop
  | .integer _ => datatype = xsdInteger
  | .decimal _ => datatype = xsdDecimal
  | .bool _ => datatype = xsdBoolean
  | _ => False

theorem ofTerm?_typed_eq_some_iff {lexical datatype : String} {v : Value} (native : v.IsNative datatype) :
    ofTerm? (.typed lexical datatype) = some v ↔ ofTyped? lexical datatype = some v := by
  rw [ofTerm?_typed, Option.some_inj]
  cases read : ofTyped? lexical datatype with
  | none =>
    rw [ofTyped_of_none read]
    simp only [reduceCtorEq, iff_false]
    rintro rfl
    exact native
  | some w => rw [ofTyped_of_some read, Option.some_inj]

theorem ofTyped?_integer (lexical : String) :
    ofTyped? lexical xsdInteger = (readInteger? (Text.trim lexical.toList)).map integer := rfl

theorem ofTyped?_boolean (lexical : String) :
    ofTyped? lexical xsdBoolean = (readBool? (Text.trim lexical.toList)).map bool := rfl

def exactDatatypes : List String := [xsdInteger, xsdDecimal, xsdBoolean]

theorem isNative_of_ofTyped? {lexical datatype : String} {v : Value} (exact : datatype ∈ exactDatatypes)
    (read : ofTyped? lexical datatype = some v) : v.IsNative datatype := by
  simp only [exactDatatypes, List.mem_cons, List.not_mem_nil, or_false] at exact
  rcases exact with rfl | rfl | rfl
  · rw [ofTyped?_integer] at read
    obtain ⟨n, -, rfl⟩ := Option.map_eq_some_iff.mp read
    rfl
  · rw [ofTyped?_decimal] at read
    obtain ⟨d, -, rfl⟩ := Option.map_eq_some_iff.mp read
    rfl
  · rw [ofTyped?_boolean] at read
    obtain ⟨b, -, rfl⟩ := Option.map_eq_some_iff.mp read
    rfl

theorem cast?_string {datatype : String} (exact : datatype ∈ exactDatatypes) (s : String) :
    cast? datatype (.string s none) =
      if datatype = xsdDecimal ∧ (Text.trim s.toList).any Decimal.isExponentMark then none
      else ofTyped? s datatype := by
  -- The two readers differ in exponents alone.
  simp only [exactDatatypes, List.mem_cons, List.not_mem_nil, or_false] at exact
  rcases exact with rfl | rfl | rfl
  · rw [if_neg (fun both => absurd both.1 (by decide)), ofTyped?_integer]
    rfl
  · rw [ofTyped?_decimal]
    show (if (Text.trim s.toList).any Decimal.isExponentMark then none else Decimal.read? _).map decimal = _
    by_cases mark : (Text.trim s.toList).any Decimal.isExponentMark = true <;> simp [mark]
  · rw [if_neg (fun both => absurd both.1 (by decide)), ofTyped?_boolean]
    rfl

theorem castTo_eq_ok_iff {datatype : String} {v w : Value} :
    v.castTo datatype = some (.ok w) ↔ v.cast? datatype = some w := by
  unfold castTo
  split
  · next found => rw [found, Option.some_inj, Option.some_inj, Except.ok.injEq]
  · next found =>
    rw [found]
    split <;> simp

/-- A literal is read as the value its text denotes in the lexical space, and else kept uninterpreted, except that
integers may have underscores and a second sign, and decimals those and an exponent. A cast of the text does the same,
and takes no exponent. -/
theorem read_and_cast_iff (s : String) :
    (∀ n, ofTerm? (.typed s xsdInteger) = some (.integer n) ↔
      IntegerText (Text.trim s.toList) n ∨ LooseInteger (Text.trim s.toList) n) ∧
    (∀ d, ofTerm? (.typed s xsdDecimal) = some (.decimal d) ↔
      DecimalText (Text.trim s.toList) d.digits d.scale.toInt ∨
        LooseDecimal (Text.trim s.toList) d.digits d.scale.toInt) ∧
    (∀ b, ofTerm? (.typed s xsdBoolean) = some (.bool b) ↔ BooleanText (Text.trim s.toList) b) ∧
    (∀ datatype ∈ exactDatatypes,
      ((∀ v : Value, v.IsNative datatype → ofTerm? (.typed s datatype) ≠ some v) →
        ofTerm? (.typed s datatype) = some (.typed s datatype)) ∧
      ∀ v, castTo datatype (.string s none) = some (.ok v) ↔
        v.IsNative datatype ∧ ofTerm? (.typed s datatype) = some v ∧
          (datatype = xsdDecimal → ∀ c ∈ Text.trim s.toList, Decimal.isExponentMark c = false)) ∧
    (∀ n m, LooseInteger (Text.trim s.toList) n → ¬ IntegerText (Text.trim s.toList) m) ∧
    (∀ digits scale digits' scale', LooseDecimal (Text.trim s.toList) digits scale →
      ¬ DecimalText (Text.trim s.toList) digits' scale') := by
  refine ⟨fun n => ?_, fun d => ?_, fun b => ?_, ?_, fun _ _ loose => loose.not_integerText,
    fun _ _ _ _ loose => loose.not_decimalText⟩
  · rw [ofTerm?_typed_eq_some_iff (by exact rfl), ofTyped?_integer, Option.map_eq_some_iff, ← readInteger?_eq_some_iff]
    simp
  · rw [ofTerm?_typed_eq_some_iff (by exact rfl), ofTyped?_decimal, Option.map_eq_some_iff, ← Decimal.read?_eq_some_iff]
    simp
  · rw [ofTerm?_typed_eq_some_iff (by exact rfl), ofTyped?_boolean, Option.map_eq_some_iff, ← readBool?_eq_some_iff]
    simp
  · intro datatype exact
    refine ⟨fun unread => ?_, fun v => ?_⟩
    · cases read : ofTyped? s datatype with
      | none => rw [ofTerm?_typed, ofTyped_of_none read]
      | some v =>
        have native := isNative_of_ofTyped? exact read
        exact absurd ((ofTerm?_typed_eq_some_iff native).mpr read) (unread v native)
    · rw [castTo_eq_ok_iff, cast?_string exact]
      constructor
      · intro cast
        split at cast
        · cases cast
        · next unmarked =>
          have native := isNative_of_ofTyped? exact cast
          refine ⟨native, (ofTerm?_typed_eq_some_iff native).mpr cast, fun decimal c member => ?_⟩
          rw [Bool.eq_false_iff]
          exact fun mark => unmarked ⟨decimal, List.any_eq_true.mpr ⟨c, member, mark⟩⟩
      · rintro ⟨native, read, unmarked⟩
        rw [if_neg, ← ofTerm?_typed_eq_some_iff native, read]
        rintro ⟨decimal, marked⟩
        obtain ⟨c, member, mark⟩ := List.any_eq_true.mp marked
        rw [unmarked decimal c member] at mark
        cases mark

example : ofTerm? (.typed " 1_000 " xsdInteger) = some (.integer 1000) := by decide

example : ofTerm? (.typed "1E3" xsdDecimal) = some (.decimal ⟨1, -3⟩) ∧
    cast? xsdDecimal (.string "1E3" none) = none := by decide

end Value

end TemplateQuery
