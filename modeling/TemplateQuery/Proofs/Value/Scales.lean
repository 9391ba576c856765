import Mathlib.Data.Prod.Lex
import Mathlib.Data.String.Basic
import TemplateQuery.Proofs.Value.Operands

/-! Comparisons of values go by one order. A value that can be compared lies at a point of a scale, and can be compared
with the values of that scale alone: the exact numbers, the texts in one language, the truth values, or the points in
time. -/

set_option autoImplicit false

namespace TemplateQuery

/-! ## Scales -/

inductive Scale where
  | numbers
  | texts (lang : Option String)
  | truths
  | times

namespace Scale

/-- The points of a scale; those in time by day, second and nanosecond. -/
def Point : Scale → Type
  | numbers => ℚ
  | texts _ => String
  | truths => Bool
  | times => ℤ ×ₗ ℕ ×ₗ ℕ

instance : (s : Scale) → LinearOrder s.Point
  | numbers => inferInstanceAs (LinearOrder ℚ)
  | texts _ => inferInstanceAs (LinearOrder String)
  | truths => inferInstanceAs (LinearOrder Bool)
  | times => inferInstanceAs (LinearOrder (ℤ ×ₗ ℕ ×ₗ ℕ))

end Scale

def Instant.point (i : Instant) : Scale.times.Point := toLex (i.day, toLex (i.second, i.nano))

theorem Instant.point_inj {i j : Instant} : i.point = j.point ↔ i = j := by
  cases i
  cases j
  show (toLex (_, toLex (_, _)) : ℤ ×ₗ ℕ ×ₗ ℕ) = toLex (_, toLex (_, _)) ↔ _
  simp

theorem Instant.order_eq_compare (i j : Instant) : i.order j = compare i.point j.point := by
  rw [order, Ordering.then_assoc]
  rfl

namespace Value

/-- The place of a value: a scale and a point of it. Neither names nor literals that are not interpreted have one. -/
inductive At : Value → (s : Scale) → s.Point → Prop
  | integer (n : Int) : At (.integer n) .numbers (n : ℚ)
  | decimal (d : Decimal) : At (.decimal d) .numbers d.value
  | string (text : String) (lang : Option String) : At (.string text lang) (.texts lang) text
  | bool (b : Bool) : At (.bool b) .truths b
  | dateTime (t : DateTime) : At (.dateTime t) .times t.instant.point

variable {a b c : Value} {s : Scale} {p q : s.Point}

theorem At.unique {s' : Scale} {p' : s'.Point} (first : a.At s p) (second : a.At s' p') : s = s' ∧ HEq p p' := by
  cases first <;> cases second <;> exact ⟨rfl, .rfl⟩

theorem numericOrder?_of_at {p q : Scale.numbers.Point} (left : a.At .numbers p) (right : b.At .numbers q) :
    numericOrder? a b = some (some (compare p q)) := by
  have integers : ∀ n m : Int, compare n m = compare (n : ℚ) m := by
    intro n m
    rw [← cmp_eq_compare, ← cmp_eq_compare, Int.cast_strictMono.cmp_map_eq]
  have decimals : ∀ (d e : Decimal) {p q : ℚ}, d.value = p → e.value = q → some (some (d.order e)) =
      some (some (compare p q)) := by
    rintro d e _ _ rfl rfl
    rw [Decimal.order_eq_compare]
  cases left with
  | integer n =>
    cases right with
    | integer m => exact congrArg (some ∘ some) (integers n m)
    | decimal e => exact decimals _ _ (Decimal.value_ofInt n) rfl
  | decimal d =>
    cases right with
    | integer m => exact decimals _ _ rfl (Decimal.value_ofInt m)
    | decimal e => exact decimals _ _ rfl rfl

theorem order_of_numericOrder? {o : Option Ordering} (numbers : numericOrder? a b = some o) : order a b = .ok o := by
  unfold order
  rw [numbers]

theorem equal_of_numericOrder? {o : Option Ordering} (numbers : numericOrder? a b = some o) :
    equal a b = .ok (o == some .eq) := by
  unfold equal
  rw [numbers]

theorem order_of_at (left : a.At s p) (right : b.At s q) : order a b = .ok (some (compare p q)) := by
  cases left with
  | integer n => exact order_of_numericOrder? (numericOrder?_of_at (.integer n) right)
  | decimal d => exact order_of_numericOrder? (numericOrder?_of_at (.decimal d) right)
  | string text lang =>
    cases right
    exact if_pos rfl
  | bool b =>
    cases right
    cases b <;> cases q <;> rfl
  | dateTime t =>
    cases right with
    | dateTime u => exact congrArg (Except.ok ∘ some) (Instant.order_eq_compare _ _)

theorem equal_of_at (left : a.At s p) (right : b.At s q) : equal a b = .ok (decide (p = q)) := by
  have numbers : ∀ {p q : Scale.numbers.Point}, a.At .numbers p → b.At .numbers q →
      equal a b = .ok (decide (p = q)) := by
    intro p q left right
    rw [equal_of_numericOrder? (numericOrder?_of_at left right)]
    congr 1
    rw [Bool.eq_iff_iff, beq_iff_eq, Option.some_inj, compare_eq_iff_eq, decide_eq_true_iff]
  cases left with
  | integer n => exact numbers (.integer n) right
  | decimal d => exact numbers (.decimal d) right
  | string text lang =>
    cases right
    have texts : ∀ s t : String, Value.string s lang = .string t lang ↔ s = t := by simp
    exact congrArg Except.ok (decide_eq_decide.mpr (texts text q))
  | bool b =>
    cases right
    have truths : ∀ b b' : Bool, Value.bool b = .bool b' ↔ b = b' := by simp
    exact congrArg Except.ok (decide_eq_decide.mpr (truths b q))
  | dateTime t =>
    cases right
    exact congrArg Except.ok (decide_eq_decide.mpr Instant.point_inj.symm)

/-! ## Values that can be compared -/

def isDouble : Value → Bool
  | .double _ => true
  | _ => false

/-- Values of which `<` can tell whether it holds. -/
def Comparable (a b : Value) : Prop := ∃ holds, compareBy .lt a b = .ok holds

def number? : Value → Option ℚ
  | .integer n => some n
  | .decimal d => some d.value
  | _ => none

theorem at_of_number? {p : ℚ} (exact : a.number? = some p) : a.At .numbers p := by
  cases a with
  | integer n => cases exact; exact .integer n
  | decimal d => cases exact; exact .decimal d
  | _ => cases exact

theorem compareBy_of_at (left : a.At s p) (right : b.At s q) (op : Comparison) :
    compareBy op a b = .ok (op.holds (compare p q)) := by
  have same : decide (p = q) = (compare p q == .eq) := by
    rw [Bool.eq_iff_iff, beq_iff_eq, compare_eq_iff_eq, decide_eq_true_iff]
  have equality := equal_of_at left right
  rw [same] at equality
  have ordered : ∀ op : Comparison, (order a b).map (fun o => o.any op.holds) = .ok (op.holds (compare p q)) := by
    intro op
    rw [order_of_at left right]
    rfl
  cases op with
  | eq => exact equality
  | ne => exact congrArg (Except.map (!·)) equality
  | _ => exact ordered _

theorem comparable_of_at (left : a.At s p) (right : b.At s q) : Comparable a b := ⟨_, compareBy_of_at left right .lt⟩

theorem exists_number? (exact : a.isDouble = false) (exact' : b.isDouble = false) {o : Option Ordering}
    (numbers : numericOrder? a b = some o) : ∃ p q, a.number? = some p ∧ b.number? = some q := by
  cases a with
  | integer n =>
    cases b with
    | integer m => exact ⟨_, _, rfl, rfl⟩
    | decimal e => exact ⟨_, _, rfl, rfl⟩
    | double x => cases exact'
    | _ => cases numbers
  | decimal d =>
    cases b with
    | integer m => exact ⟨_, _, rfl, rfl⟩
    | decimal e => exact ⟨_, _, rfl, rfl⟩
    | double x => cases exact'
    | _ => cases numbers
  | double x => cases exact
  | _ => cases numbers

theorem exists_at (exact : a.isDouble = false) (exact' : b.isDouble = false) (comparable : Comparable a b) :
    ∃ (s : Scale) (p q : s.Point), a.At s p ∧ b.At s q := by
  obtain ⟨holds, found⟩ := comparable
  obtain ⟨o, ordered, -⟩ := ok_of_map (x := order a b) found
  cases numbers : numericOrder? a b with
  | some o =>
    obtain ⟨p, q, left, right⟩ := exists_number? exact exact' numbers
    exact ⟨.numbers, p, q, at_of_number? left, at_of_number? right⟩
  | none =>
    unfold order at ordered
    rw [numbers] at ordered
    dsimp only at ordered
    split at ordered
    · next text lang text' lang' =>
      split at ordered
      · next same =>
        subst same
        exact ⟨_, _, _, .string text lang, .string text' lang⟩
      · cases ordered
    · exact ⟨_, _, _, .bool _, .bool _⟩
    · exact ⟨_, _, _, .dateTime _, .dateTime _⟩
    · cases ordered

theorem equal_comm (exact : a.isDouble = false) (exact' : b.isDouble = false) : Agree Eq (equal a b) (equal b a) := by
  have points : ∀ {s : Scale} {p q : s.Point}, a.At s p → b.At s q → Agree Eq (equal a b) (equal b a) := by
    intro s p q left right
    rw [equal_of_at left right, equal_of_at right left]
    exact decide_eq_decide.mpr eq_comm
  cases a with
  | integer n =>
    cases b with
    | integer m => exact points (.integer n) (.integer m)
    | decimal e => exact points (.integer n) (.decimal e)
    | double x => cases exact'
    | _ => exact decide_eq_decide.mpr eq_comm
  | decimal d =>
    cases b with
    | integer m => exact points (.decimal d) (.integer m)
    | decimal e => exact points (.decimal d) (.decimal e)
    | double x => cases exact'
    | _ => exact decide_eq_decide.mpr eq_comm
  | dateTime t =>
    cases b with
    | dateTime u => exact points (.dateTime t) (.dateTime u)
    | _ => exact decide_eq_decide.mpr eq_comm
  | typed lexical datatype =>
    cases b with
    | typed lexical' datatype' =>
      -- Two literals that are not interpreted are equal, or cannot be told apart.
      show Agree Eq (if _ then _ else _) (if _ then _ else _)
      by_cases same : lexical = lexical' ∧ datatype = datatype'
      · rw [if_pos same, if_pos ⟨same.1.symm, same.2.symm⟩]
        rfl
      · rw [if_neg same, if_neg fun other => same ⟨other.1.symm, other.2.symm⟩]
        trivial
    | _ => exact decide_eq_decide.mpr eq_comm
  | double x => cases exact
  | _ => cases b <;> exact decide_eq_decide.mpr eq_comm

/-- The comparison operators go by one order of the values that can be compared: of two such values exactly one is less,
equal or greater, and of three they are transitive. Integers and decimals are ordered by their numbers; and the sides
of an equality can always be exchanged. -/
theorem compareBy_one_order (a b c : Value) (exact : a.isDouble = false ∧ b.isDouble = false ∧ c.isDouble = false) :
    (Comparable a b ↔ Comparable b a) ∧
    (Comparable a b → ∃ less same more : Bool,
      compareBy .lt a b = .ok less ∧ compareBy .eq a b = .ok same ∧ compareBy .gt a b = .ok more ∧
      less.toNat + same.toNat + more.toNat = 1 ∧
      compareBy .le a b = .ok !more ∧ compareBy .ge a b = .ok !less ∧ compareBy .ne a b = .ok !same) ∧
    (Comparable a b → Comparable b c → Comparable a c ∧
      (compareBy .lt a b = .ok true → compareBy .lt b c = .ok true → compareBy .lt a c = .ok true) ∧
      (compareBy .eq a b = .ok true → compareBy .eq b c = .ok true → compareBy .eq a c = .ok true)) ∧
    (∀ p q, a.number? = some p → b.number? = some q →
      compareBy .lt a b = .ok (decide (p < q)) ∧ compareBy .eq a b = .ok (decide (p = q))) ∧
    Agree Eq (compareBy .eq a b) (compareBy .eq b a) := by
  obtain ⟨ha, hb, hc⟩ := exact
  refine ⟨⟨fun comparable => ?_, fun comparable => ?_⟩, fun comparable => ?_, fun first second => ?_,
    fun p q left right => ?_, equal_comm ha hb⟩
  · obtain ⟨s, p, q, left, right⟩ := exists_at ha hb comparable
    exact comparable_of_at right left
  · obtain ⟨s, p, q, left, right⟩ := exists_at hb ha comparable
    exact comparable_of_at right left
  · obtain ⟨s, p, q, left, right⟩ := exists_at ha hb comparable
    have each := compareBy_of_at left right
    refine ⟨_, _, _, each .lt, each .eq, each .gt, ?_, ?_, ?_, ?_⟩
    · cases compare p q <;> rfl
    · rw [each]
      cases compare p q <;> rfl
    · rw [each]
      cases compare p q <;> rfl
    · rw [each]
      cases compare p q <;> rfl
  · -- A value has one place on one scale, so that both comparisons are on the same.
    obtain ⟨s, p, q, left, middle⟩ := exists_at ha hb first
    obtain ⟨s', q', r, middle', right⟩ := exists_at hb hc second
    obtain ⟨rfl, same⟩ := middle.unique middle'
    cases same
    refine ⟨comparable_of_at left right, ?_, ?_⟩
    · rw [compareBy_of_at left middle, compareBy_of_at middle right, compareBy_of_at left right]
      simp only [Comparison.holds, Except.ok.injEq, beq_iff_eq, compare_lt_iff_lt]
      exact lt_trans
    · rw [compareBy_of_at left middle, compareBy_of_at middle right, compareBy_of_at left right]
      simp only [Comparison.holds, Except.ok.injEq, beq_iff_eq, compare_eq_iff_eq]
      exact Eq.trans
  · have each := compareBy_of_at (at_of_number? left) (at_of_number? right)
    rw [each, each]
    constructor
    · congr 1
      rw [Bool.eq_iff_iff, Comparison.holds, beq_iff_eq, decide_eq_true_iff]
      exact compare_lt_iff_lt
    · congr 1
      rw [Bool.eq_iff_iff, Comparison.holds, beq_iff_eq, decide_eq_true_iff]
      exact compare_eq_iff_eq

/-- One and a half lies between one and two, and so one comes before two. -/
theorem compareBy_one_order_between :
    compareBy .lt (.integer 1) (.decimal ⟨15, 1⟩) = .ok true ∧
    compareBy .lt (.decimal ⟨15, 1⟩) (.integer 2) = .ok true ∧
    compareBy .lt (.integer 1) (.integer 2) = .ok true := by
  obtain ⟨-, -, transitive, -, -⟩ :=
    compareBy_one_order (.integer 1) (.decimal ⟨15, 1⟩) (.integer 2) ⟨rfl, rfl, rfl⟩
  have first : compareBy .lt (.integer 1) (.decimal ⟨15, 1⟩) = .ok true := by rfl
  have second : compareBy .lt (.decimal ⟨15, 1⟩) (.integer 2) = .ok true := by rfl
  exact ⟨first, second, (transitive ⟨_, first⟩ ⟨_, second⟩).2.1 first second⟩

-- A double may be in no order at all.
example :
    compareBy .lt (.double .nan) (.integer 1) = .ok false ∧ compareBy .eq (.double .nan) (.integer 1) = .ok false ∧
    compareBy .gt (.double .nan) (.integer 1) = .ok false := ⟨rfl, rfl, rfl⟩

end Value

end TemplateQuery
