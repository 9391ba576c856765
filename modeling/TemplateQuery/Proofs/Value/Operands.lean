import TemplateQuery.Proofs.Value.Rereading
import TemplateQuery.Value.Arithmetic
import TemplateQuery.Value.Order

/-! Values as operands. Decimals of one number are the same operand to sums, products and comparisons of exact numbers;
to quotients and to doubles they are while neither runs out of digits. Products and quotients have to fit. -/

set_option autoImplicit false

namespace TemplateQuery

open Number

def Agree {ε α : Type} (related : α → α → Prop) : Except ε α → Except ε α → Prop
  | .ok a, .ok b => related a b
  | .error _, .error _ => True
  | _, _ => False

theorem Agree.map {ε α β : Type} {related : α → α → Prop} {related' : β → β → Prop} {f : α → β}
    (kept : ∀ {a b}, related a b → related' (f a) (f b)) {x y : Except ε α} (agree : Agree related x y) :
    Agree related' (x.map f) (y.map f) := by
  cases x with
  | ok a =>
    cases y with
    | ok b => exact kept agree
    | error _ => exact agree.elim
  | error _ =>
    cases y with
    | ok b => exact agree.elim
    | error _ => trivial

theorem Agree.refl {ε α : Type} {related : α → α → Prop} (each : ∀ a, related a a) (x : Except ε α) :
    Agree related x x := by
  cases x with
  | ok a => exact each a
  | error _ => trivial

namespace Value

/-- Outcomes of arithmetic that agree, unless one of them does not fit. -/
def AgreeIfFitting (x y : Outcome Value) : Prop := ∀ p q, x = some p → y = some q → Agree Alike p q

theorem AgreeIfFitting.refl (x : Outcome Value) : AgreeIfFitting x x := by
  rintro p q rfl same
  rw [Option.some_inj.mp same]
  exact .refl .refl q

theorem agreeIfFitting_some {p q : Except EvalError Value} (agree : Agree Alike p q) :
    AgreeIfFitting (some p) (some q) := by
  rintro _ _ ⟨⟩ ⟨⟩
  exact agree

/-- An exact number with so many digits at most, and no zeros beyond them. -/
def Within (length : Nat) : Value → Prop
  | .integer n => n.natAbs < 10 ^ length
  | .decimal d => 0 ≤ d.scale ∧ d.digits.natAbs < 10 ^ length
  | _ => True

/-! ## Decimals of one number -/

section Decimals

variable {a b : Decimal}

theorem alike_of_value (same : a.value = b.value) : Alike (.decimal a) (.decimal b) :=
  .decimal (Decimal.order_eq_iff.mpr same)

theorem isZero_of_value (same : a.value = b.value) : a.isZero = b.isZero := by
  rw [Bool.eq_iff_iff, Decimal.isZero_iff, Decimal.isZero_iff, same]

def numbered (o : Outcome Decimal) : Outcome Value := o.map (Except.map .decimal)

theorem agreeIfFitting_numbered {x y : Option Decimal}
    (same : ∀ p q, x = some p → y = some q → p.value = q.value) :
    AgreeIfFitting (numbered (x.map .ok)) (numbered (y.map .ok)) := by
  intro p q left right
  rw [numbered, Option.map_map, Option.map_eq_some_iff] at left right
  obtain ⟨a, found, rfl⟩ := left
  obtain ⟨b, found', rfl⟩ := right
  exact alike_of_value (same a b found found')

theorem agreeIfFitting_ok (same : a.value = b.value) :
    AgreeIfFitting (numbered (some (.ok a))) (numbered (some (.ok b))) := agreeIfFitting_some (alike_of_value same)

theorem onDecimals_left (same : a.value = b.value) (op : Arithmetic) (c : Decimal)
    (short : op = .div → a.digits.natAbs < 10 ^ Decimal.precision ∧ b.digits.natAbs < 10 ^ Decimal.precision) :
    AgreeIfFitting (numbered (onDecimals op a c)) (numbered (onDecimals op b c)) := by
  cases op with
  | add => exact agreeIfFitting_ok (by rw [Decimal.value_add, Decimal.value_add, same])
  | sub => exact agreeIfFitting_ok (by rw [Decimal.value_sub, Decimal.value_sub, same])
  | mul =>
    refine agreeIfFitting_numbered fun p q left right => ?_
    rw [Decimal.value_mul left, Decimal.value_mul right, same]
  | div =>
    unfold onDecimals
    by_cases zero : c.isZero = true
    · rw [if_pos zero, if_pos zero]
      exact .refl _
    · rw [if_neg zero, if_neg zero]
      have divisor : c.digits ≠ 0 := by simpa [Decimal.isZero] using zero
      exact agreeIfFitting_numbered fun p q => Decimal.value_div_left same divisor (short rfl).1 (short rfl).2

theorem onDecimals_right (same : a.value = b.value) (op : Arithmetic) (c : Decimal)
    (short : op = .div → c.digits.natAbs < 10 ^ Decimal.precision) :
    AgreeIfFitting (numbered (onDecimals op c a)) (numbered (onDecimals op c b)) := by
  cases op with
  | add => exact agreeIfFitting_ok (by rw [Decimal.value_add, Decimal.value_add, same])
  | sub => exact agreeIfFitting_ok (by rw [Decimal.value_sub, Decimal.value_sub, same])
  | mul =>
    refine agreeIfFitting_numbered fun p q left right => ?_
    rw [Decimal.value_mul left, Decimal.value_mul right, same]
  | div =>
    unfold onDecimals
    rw [← isZero_of_value same]
    by_cases zero : a.isZero = true
    · rw [if_pos zero, if_pos zero]
      exact .refl _
    · rw [if_neg zero, if_neg zero]
      have divisor : a.digits ≠ 0 := by simpa [Decimal.isZero] using zero
      exact agreeIfFitting_numbered fun p q => Decimal.value_div_right same divisor (short rfl)

theorem arithmetic_left (same : a.value = b.value) (op : Arithmetic) (u : Value)
    (short : op = .div → a.digits.natAbs < 10 ^ Decimal.precision ∧ b.digits.natAbs < 10 ^ Decimal.precision)
    (double : ∀ x, u = .double x → (Binary.ofDecimal a : Double) = .ofDecimal b) :
    AgreeIfFitting (arithmetic op (.decimal a) u) (arithmetic op (.decimal b) u) := by
  cases u with
  | integer n => cases op <;> exact onDecimals_left same _ (.ofInt n) short
  | decimal c => cases op <;> exact onDecimals_left same _ c short
  | double x =>
    have passed : Alike (.double (onDoubles op (.ofDecimal a) x)) (.double (onDoubles op (.ofDecimal b) x)) := by
      rw [double x rfl]
      exact .refl _
    cases op <;> exact agreeIfFitting_some passed
  | _ => cases op <;> exact agreeIfFitting_some trivial

theorem arithmetic_right (same : a.value = b.value) (op : Arithmetic) (u : Value)
    (short : op = .div → ∀ c, u.toDecimal? = some c → c.digits.natAbs < 10 ^ Decimal.precision)
    (double : ∀ x, u = .double x → (Binary.ofDecimal a : Double) = .ofDecimal b) :
    AgreeIfFitting (arithmetic op u (.decimal a)) (arithmetic op u (.decimal b)) := by
  cases u with
  | integer n => cases op <;> exact onDecimals_right same _ (.ofInt n) fun division => short division _ rfl
  | decimal c => cases op <;> exact onDecimals_right same _ c fun division => short division _ rfl
  | double x =>
    have passed : Alike (.double (onDoubles op x (.ofDecimal a))) (.double (onDoubles op x (.ofDecimal b))) := by
      rw [double x rfl]
      exact .refl _
    cases op <;> exact agreeIfFitting_some passed
  | _ => cases op <;> exact agreeIfFitting_some trivial

theorem numericOrder?_left (same : a.value = b.value) (u : Value)
    (double : ∀ x, u = .double x → (Binary.ofDecimal a : Double) = .ofDecimal b) :
    numericOrder? (.decimal a) u = numericOrder? (.decimal b) u := by
  cases u with
  | integer n => simp only [numericOrder?, toDecimal?, Decimal.order_eq_compare, same]
  | decimal c => simp only [numericOrder?, toDecimal?, Decimal.order_eq_compare, same]
  | double x => simp only [numericOrder?, toDecimal?, toDouble?, double x rfl]
  | _ => rfl

theorem numericOrder?_right (same : a.value = b.value) (u : Value)
    (double : ∀ x, u = .double x → (Binary.ofDecimal a : Double) = .ofDecimal b) :
    numericOrder? u (.decimal a) = numericOrder? u (.decimal b) := by
  cases u with
  | integer n => simp only [numericOrder?, toDecimal?, Decimal.order_eq_compare, same]
  | decimal c => simp only [numericOrder?, toDecimal?, Decimal.order_eq_compare, same]
  | double x => simp only [numericOrder?, toDecimal?, toDouble?, double x rfl]
  | _ => rfl

theorem compareBy_agree {v w v' w' : Value} (op : Comparison) (equal : Agree Eq (equal v w) (equal v' w'))
    (order : Agree Eq (order v w) (order v' w')) : Agree Eq (compareBy op v w) (compareBy op v' w') := by
  cases op with
  | eq => exact equal
  | ne => exact equal.map (congrArg _)
  | _ => exact order.map (congrArg _)

-- Without an order of numbers the other side is no number, and a decimal is not equal to it whatever its digits.
theorem compareBy_left (same : a.value = b.value) (op : Comparison) (u : Value)
    (double : ∀ x, u = .double x → (Binary.ofDecimal a : Double) = .ofDecimal b) :
    Agree Eq (compareBy op (.decimal a) u) (compareBy op (.decimal b) u) := by
  have orders := numericOrder?_left same u double
  apply compareBy_agree op
  · unfold equal
    rw [orders]
    cases found : numericOrder? (.decimal b) u with
    | some o => rfl
    | none => cases u <;> first | rfl | cases found
  · unfold order
    rw [orders]
    cases found : numericOrder? (.decimal b) u with
    | some o => rfl
    | none => cases u <;> trivial

theorem compareBy_right (same : a.value = b.value) (op : Comparison) (u : Value)
    (double : ∀ x, u = .double x → (Binary.ofDecimal a : Double) = .ofDecimal b) :
    Agree Eq (compareBy op u (.decimal a)) (compareBy op u (.decimal b)) := by
  have orders := numericOrder?_right same u double
  apply compareBy_agree op
  · unfold equal
    rw [orders]
    cases found : numericOrder? u (.decimal b) with
    | some o => rfl
    | none => cases u <;> first | rfl | cases found
  · unfold order
    rw [orders]
    cases found : numericOrder? u (.decimal b) with
    | some o => rfl
    | none => cases u <;> trivial

end Decimals

/-! ## The value read back as an operand -/

/-- What the operators make of two values is the same: their kind, truth, text, negation, and every sum, product and
comparison with exact numbers. Products and quotients may fail to fit for one of them, quotients have a hundred digits,
and passage to a double looks at no more than forty-three for sure. -/
structure Interchangeable (w v : Value) : Prop where
  kind : w.datatype? = v.datatype?
  numeric : w.isNumeric = v.isNumeric
  truth : w.truth? = v.truth?
  term : w.toTerm = v.toTerm
  negated : Agree Alike w.negate v.negate
  computed : ∀ (op : Arithmetic) (u : Value), (op = .div → v.Within 99 ∧ u.Within 99) →
    (∀ x, u = .double x → v.Within 43) →
    AgreeIfFitting (w.arithmetic op u) (v.arithmetic op u) ∧ AgreeIfFitting (u.arithmetic op w) (u.arithmetic op v)
  compared : ∀ (op : Comparison) (u : Value), (∀ x, u = .double x → v.Within 43) →
    Agree Eq (w.compareBy op u) (v.compareBy op u) ∧ Agree Eq (u.compareBy op w) (u.compareBy op v)

theorem Interchangeable.refl (v : Value) : v.Interchangeable v where
  kind := rfl
  numeric := rfl
  truth := rfl
  term := rfl
  negated := .refl .refl _
  computed _ _ _ _ := ⟨.refl _, .refl _⟩
  compared _ _ _ := ⟨.refl (fun _ => rfl) _, .refl (fun _ => rfl) _⟩

theorem digits_toDecimal? {length : Nat} {u : Value} (within : u.Within length) {c : Decimal}
    (exact : u.toDecimal? = some c) : c.digits.natAbs < 10 ^ length := by
  cases u with
  | integer n =>
    cases exact
    exact within
  | decimal d =>
    cases exact
    exact within.2
  | _ => cases exact

theorem toInt_nonneg {s : Int64} (nonneg : 0 ≤ s) : 0 ≤ s.toInt := Int64.le_iff_toInt_le.mp nonneg

theorem ofDecimal_reread {d : Decimal} (within : (Value.decimal d).Within 43) :
    (Binary.ofDecimal d.reread : Double) = .ofDecimal d :=
  have fraction := toInt_nonneg within.1
  Binary.ofDecimal_congr d.value_reread (Int.le_of_lt d.reread_scale_pos) fraction
    (Decimal.reread_short fraction within.2) (Nat.lt_trans within.2 (by decide))

-- A power of ten that a double does not hold is rounded before it is multiplied.
example : (Binary.ofDecimal (Decimal.reread ⟨3, -23⟩) : Double) ≠ .ofDecimal ⟨3, -23⟩ := by decide +kernel

theorem interchangeable_reread (d : Decimal) : (Value.decimal d.reread).Interchangeable (.decimal d) where
  kind := rfl
  numeric := rfl
  truth := by simp only [truth?, isZero_of_value d.value_reread]
  term := by simp only [toTerm, Decimal.text_congr d.value_reread]
  negated := alike_of_value (by rw [Decimal.value_neg, Decimal.value_neg, d.value_reread])
  computed op u short few := by
    have double := fun x same => ofDecimal_reread (few x same)
    have room : 10 ^ 99 ≤ 10 ^ Decimal.precision := Nat.pow_le_pow_right (by decide) (by decide)
    constructor
    · refine arithmetic_left d.value_reread op u (fun division => ?_) double
      obtain ⟨fraction, digits⟩ := (short division).1
      exact ⟨Decimal.reread_short (toInt_nonneg fraction) digits, Nat.lt_of_lt_of_le digits room⟩
    · refine arithmetic_right d.value_reread op u (fun division c exact => ?_) double
      exact Nat.lt_of_lt_of_le (digits_toDecimal? (short division).2 exact) room
  compared op u few := by
    have double := fun x same => ofDecimal_reread (few x same)
    exact ⟨compareBy_left d.value_reread op u double, compareBy_right d.value_reread op u double⟩

theorem interchangeable_of_alike {v w : Value} (read : v.toTerm.bind ofTerm? = some w) (alike : w.Alike v) :
    w.Interchangeable v := by
  cases alike with
  | refl => exact .refl _
  | @decimal a d same =>
    have written : (Value.decimal d).Survives := (alike_ofTerm?_iff _).mp ⟨_, read, .decimal same⟩
    rw [ofTerm?_decimal written, Option.some_inj] at read
    rw [← read]
    exact interchangeable_reread d

end Value

end TemplateQuery
