import TemplateQuery.Proofs.DateTime.Text
import TemplateQuery.Proofs.Eval.Rows
import TemplateQuery.Proofs.Number.Quotients

/-! Values written as terms and read again. All kinds of values come back, decimals as the same number, but for texts
that are kept uninterpreted though their datatype could read them, and for what the written forms have no room for. -/

set_option autoImplicit false

namespace TemplateQuery

open Number Vocabulary

/-! ## Texts without white space -/

namespace Text

def Plain (cs : List Char) : Prop := ∀ c ∈ cs, isBlank c = false

@[simp] theorem plain_nil : Plain [] := by simp [Plain]

@[simp] theorem plain_cons {c : Char} {cs : List Char} : Plain (c :: cs) ↔ isBlank c = false ∧ Plain cs :=
  List.forall_mem_cons

@[simp] theorem plain_append {cs ds : List Char} : Plain (cs ++ ds) ↔ Plain cs ∧ Plain ds := List.forall_mem_append

theorem plain_of_digits {cs : List Char} (digits : ∀ c ∈ cs, c.isDigit = true) : Plain cs :=
  fun c member => not_blank_of_isDigit (digits c member)

@[simp] theorem plain_natText (n : Nat) : Plain (natText n) := plain_of_digits fun _ => isDigit_of_mem_natText

@[simp] theorem plain_intText (n : Int) : Plain (intText n) := by
  unfold intText
  split <;> simp [isBlank]

@[simp] theorem plain_padded (width n : Nat) : Plain (padded width n) :=
  plain_of_digits fun _ => isDigit_of_mem_padded

end Text

open Text

theorem Decimal.plain_spelled (digits scale : Int) : Plain (spelled digits scale) := by
  have sign : Plain (if digits < 0 then ['-'] else []) := by split <;> simp [isBlank]
  have zeros : ∀ n, Plain (List.replicate n '0') := fun _ => plain_of_digits isDigit_of_mem_replicate
  have run : Plain (List.replicate (scale.natAbs + 1 - (natText digits.natAbs).length) '0' ++
      natText digits.natAbs) := plain_of_digits (isDigits_zeros _ _).2
  unfold spelled
  dsimp only
  split
  · refine plain_append.mpr ⟨plain_append.mpr ⟨by simp [sign], ?_⟩, by simp [isBlank]⟩
    split
    · exact plain_nil
    · exact zeros _
  · simp only [plain_append, plain_cons]
    exact ⟨⟨sign, fun c member => run c (List.mem_of_mem_take member)⟩, rfl,
      fun c member => run c (List.mem_of_mem_drop member)⟩

theorem Scientific.plain_text (s : Scientific) : Plain s.text := by
  unfold text
  dsimp only
  split
  · simp [isBlank]
  · next first rest kept =>
    have digits : ∀ c ∈ first :: rest, c.isDigit = true := by
      intro c member
      rw [← kept, List.mem_reverse] at member
      exact isDigit_of_mem_natText (List.mem_reverse.mp ((List.dropWhile_sublist _).mem member))
    obtain ⟨start, others⟩ := plain_cons.mp (plain_of_digits digits)
    have fraction : Plain (if rest.isEmpty then ['0'] else rest) := by
      split
      · simp [isBlank]
      · exact others
    refine plain_append.mpr ⟨plain_cons.mpr ⟨start, plain_cons.mpr ⟨rfl, fraction⟩⟩, ?_⟩
    exact plain_cons.mpr ⟨rfl, plain_intText _⟩

theorem Binary.plain_text {f : Format} (b : Binary f) : Plain b.text := by
  cases b with
  | nan => simp [text, isBlank]
  | infinite negative => cases negative <;> simp [text, isBlank]
  | finite negative units holds => cases negative <;> simp [text, isBlank, Scientific.plain_text]

theorem DateTime.plain_text (t : DateTime) : Plain t.text := by
  have zone : Plain (zoneText t.offset) := by
    unfold zoneText offsetText
    repeat' split
    all_goals simp [isBlank]
  have fraction : Plain (fractionText t.time.nano) := by
    unfold fractionText
    repeat' split
    all_goals simp [isBlank]
  have year : Plain (yearText t.date.year) := by
    unfold yearText
    repeat' split
    all_goals simp [isBlank]
  rw [text_eq, behindYear]
  simp [isBlank, zone, fraction, year]

/-! ## Reading back -/

namespace Value

/-- The same value, where decimals go by their number. -/
inductive Alike : Value → Value → Prop
  | refl (v : Value) : Alike v v
  | decimal {a b : Decimal} (same : a.order b = .eq) : Alike (.decimal a) (.decimal b)

/-- What comes back from its term: a decimal that has a text, a date that can be written, and a literal that its
datatype does not interpret. -/
def Survives : Value → Prop
  | .decimal d => d.text ≠ none
  | .dateTime t => t.IsWritable
  | .typed lexical datatype => ofTyped? lexical datatype = none
  | _ => True

theorem ofTyped?_decimal (lexical : String) :
    ofTyped? lexical xsdDecimal = (Decimal.read? (trim lexical.toList)).map decimal := rfl

theorem ofTyped?_double (lexical : String) :
    ofTyped? lexical xsdDouble = (Binary.read? (trim lexical.toList)).map double := rfl

theorem ofTyped?_float (lexical : String) :
    ofTyped? lexical xsdFloat = (Binary.read? (trim lexical.toList)).map double := rfl

theorem ofTyped?_dateTime (lexical : String) :
    ofTyped? lexical xsdDateTime = (DateTime.read? (trim lexical.toList)).map dateTime := rfl

theorem ofTyped?_ne_typed (lexical datatype lexical' datatype' : String) :
    ofTyped? lexical datatype ≠ some (.typed lexical' datatype') := by
  unfold ofTyped?
  intro found
  dsimp only at found
  repeat' split at found
  all_goals simp at found

theorem ofTerm?_typed (lexical datatype : String) :
    ofTerm? (Term.typed lexical datatype) = some (ofTyped lexical datatype) := rfl

theorem ofTyped_of_some {lexical datatype : String} {v : Value} (read : ofTyped? lexical datatype = some v) :
    ofTyped lexical datatype = v := by
  rw [ofTyped, read, Option.getD_some]

theorem ofTyped_of_none {lexical datatype : String} (unread : ofTyped? lexical datatype = none) :
    ofTyped lexical datatype = .typed lexical datatype := by
  rw [ofTyped, unread, Option.getD_none]

theorem ofTyped_decimal_text {d : Decimal} {text : List Char} (written : d.text = some text) :
    ofTyped (String.ofList text) xsdDecimal = .decimal d.reread := by
  have plain : Plain text := by
    obtain ⟨-, rfl⟩ := Decimal.text_eq_some_iff.mp written
    exact Decimal.plain_spelled _ _
  apply ofTyped_of_some
  rw [ofTyped?_decimal, String.toList_ofList, trim_of_plain plain, Decimal.read?_text written, Option.map_some]

theorem toTerm_decimal {d : Decimal} {text : List Char} (written : d.text = some text) :
    (Value.decimal d).toTerm = some (.typed (String.ofList text) xsdDecimal) := by
  rw [toTerm, written, Option.map_some]

theorem toTerm_decimal_eq_none_iff {d : Decimal} : (Value.decimal d).toTerm = none ↔ d.text = none := by
  rw [toTerm, Option.map_eq_none_iff]

theorem ofTerm?_decimal {d : Decimal} (written : d.text ≠ none) :
    (Value.decimal d).toTerm.bind ofTerm? = some (.decimal d.reread) := by
  obtain ⟨text, written⟩ := Option.ne_none_iff_exists'.mp written
  rw [toTerm_decimal written, Option.bind_some, ofTerm?_typed, ofTyped_decimal_text written]

theorem ofTerm?_double (d : Double) : (Value.double d).toTerm.bind ofTerm? = some (.double d) := by
  have read : ofTyped? (String.ofList d.text) xsdDouble = some (.double d) := by
    rw [ofTyped?_double, String.toList_ofList, trim_of_plain d.plain_text, Binary.read?_text (by decide)]
    rfl
  rw [toTerm, Option.bind_some, ofTerm?_typed, ofTyped_of_some read]

theorem ofTerm?_integer (n : Int) : (Value.integer n).toTerm.bind ofTerm? = some (.integer n) := by
  have canonical : Number.readInteger? (String.ofList (intText n)).toList = some n := by
    rw [String.toList_ofList, Number.readInteger?_intText]
  rw [toTerm, Option.bind_some, ofTerm?_typed, ofTyped_integer canonical]

theorem ofTerm?_bool (b : Bool) : (Value.bool b).toTerm.bind ofTerm? = some (.bool b) := by cases b <;> rfl

theorem ofTyped?_dateTime_text (t : DateTime) :
    ofTyped? (String.ofList t.text) xsdDateTime = (DateTime.read? t.text).map dateTime := by
  rw [ofTyped?_dateTime, String.toList_ofList, trim_of_plain t.plain_text]

theorem ofTerm?_dateTime {t : DateTime} (writable : t.IsWritable) :
    (Value.dateTime t).toTerm.bind ofTerm? = some (.dateTime t) := by
  have read : ofTyped? (String.ofList t.text) xsdDateTime = some (.dateTime t) := by
    rw [ofTyped?_dateTime_text, (DateTime.read?_text_iff t).mpr writable, Option.map_some]
  rw [toTerm, Option.bind_some, ofTerm?_typed, ofTyped_of_some read]

theorem ofTyped?_float_text (s : Single) :
    ∃ d : Double, ofTyped? (String.ofList s.text) xsdFloat = some (.double d) := by
  obtain ⟨d, read⟩ := Binary.exists_read?_text (g := Format.double) s
  exact ⟨d, by rw [ofTyped?_float, String.toList_ofList, trim_of_plain s.plain_text, read, Option.map_some]⟩

/-- A literal is read in one way, so what it comes back as is told by its datatype alone. -/
theorem exists_alike_typed_iff {lexical datatype : String} {v : Value} :
    (∃ w, (some (Term.typed lexical datatype)).bind ofTerm? = some w ∧ w.Alike v) ↔
      (ofTyped lexical datatype).Alike v := by
  rw [Option.bind_some, ofTerm?_typed]
  simp

theorem alike_ofTerm?_iff (v : Value) : (∃ w, v.toTerm.bind ofTerm? = some w ∧ w.Alike v) ↔ v.Survives := by
  -- Only the last three kinds can fail to come back; what is written for the others is read as it was.
  cases v with
  | iri i => exact iff_of_true ⟨_, rfl, .refl _⟩ trivial
  | blank label => exact iff_of_true ⟨_, rfl, .refl _⟩ trivial
  | string text lang => cases lang <;> exact iff_of_true ⟨_, rfl, .refl _⟩ trivial
  | bool b => exact iff_of_true ⟨_, ofTerm?_bool b, .refl _⟩ trivial
  | integer n => exact iff_of_true ⟨_, ofTerm?_integer n, .refl _⟩ trivial
  | double d => exact iff_of_true ⟨_, ofTerm?_double d, .refl _⟩ trivial
  | decimal d =>
    by_cases written : d.text = none
    · rw [toTerm_decimal_eq_none_iff.mpr written, Survives]
      exact iff_of_false (by simp) fun survives => survives written
    · exact iff_of_true ⟨_, ofTerm?_decimal written, .decimal (Decimal.order_eq_iff.mpr d.value_reread)⟩ written
  | dateTime t =>
    rw [toTerm, exists_alike_typed_iff, Survives, ← DateTime.read?_text_iff]
    have read := ofTyped?_dateTime_text t
    cases found : DateTime.read? t.text with
    | none =>
      rw [found] at read
      rw [ofTyped_of_none read]
      exact iff_of_false nofun nofun
    | some u =>
      rw [found] at read
      rw [ofTyped_of_some read, Option.some_inj]
      constructor
      · rintro ⟨⟩
        rfl
      · rintro rfl
        exact .refl _
  | typed lexical datatype =>
    rw [toTerm, exists_alike_typed_iff, Survives]
    cases found : ofTyped? lexical datatype with
    | none =>
      rw [ofTyped_of_none found]
      exact iff_of_true (.refl _) rfl
    | some u =>
      rw [ofTyped_of_some found]
      refine iff_of_false (fun alike => ?_) nofun
      cases alike
      exact ofTyped?_ne_typed _ _ _ _ found

theorem ofWritten?_dateTime (p : Prologue) (t : DateTime) :
    ((Value.dateTime t).toTerm.bind fun u => Term.ofWritten? p u.written) = (Value.dateTime t).toTerm := by
  have readable : (Term.typed (String.ofList t.text) xsdDateTime).Readable := by
    refine ⟨trivial, fun i member => ?_⟩
    obtain rfl := List.mem_singleton.mp member
    decide
  rw [toTerm, Option.bind_some, Term.ofWritten?_written p readable]
  rfl

/-- A date that was read from any text is read again from its own text, and from its term written under any prologue:
with the same fields to the nanosecond, and the same offset or none. -/
theorem dateTime_reads_back {cs : List Char} {t : DateTime} (read : DateTime.read? cs = some t) :
    DateTime.read? t.text = some t ∧
    ∀ p : Prologue, ((Value.dateTime t).toTerm.bind fun u => Term.ofWritten? p u.written).bind ofTerm? =
      some (.dateTime t) := by
  have writable := DateTime.isWritable_of_read? read
  refine ⟨(DateTime.read?_text_iff t).mpr writable, fun p => ?_⟩
  rw [ofWritten?_dateTime, ofTerm?_dateTime writable]

def leapSecond : DateTime := ⟨⟨12345, 6, 30, by decide⟩, ⟨23, 59, 60, 500000000, by decide⟩, none⟩

def westernAfternoon : DateTime := ⟨⟨2011, 1, 10, by decide⟩, ⟨14, 45, 13, 815000000, by decide⟩, some (-18000)⟩

/-- Both are read from texts that are not their own, and then from their own and from their terms. -/
theorem dateTime_reads_back_leapSecond :
    DateTime.read? "+12345-6-30T23:59:60.5".toList = some leapSecond ∧
    leapSecond.text = "+12345-06-30T23:59:60.500".toList ∧ DateTime.read? leapSecond.text = some leapSecond ∧
    DateTime.read? "2011-01-10t14:45:13.815000-05:00".toList = some westernAfternoon ∧
    westernAfternoon.text = "2011-01-10T14:45:13.815-05:00".toList ∧
    ((Value.dateTime westernAfternoon).toTerm.bind fun u => Term.ofWritten? {} u.written).bind ofTerm? =
      some (.dateTime westernAfternoon) := by
  have unzoned : DateTime.read? "+12345-6-30T23:59:60.5".toList = some leapSecond := by decide
  have zoned : DateTime.read? "2011-01-10t14:45:13.815000-05:00".toList = some westernAfternoon := by decide
  exact ⟨unzoned, by decide, (dateTime_reads_back unzoned).1, zoned, by decide, (dateTime_reads_back zoned).2 {}⟩

end Value

end TemplateQuery
