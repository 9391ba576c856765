import TemplateQuery.EvalError

/-! Comparison of values. Numbers compare across their kinds, exactly unless one is a double; texts,
truth values and dates compare within their kind. Other values have no order, and are equal only when
they are the same; two literals that are not interpreted and not the same cannot even be told apart. -/

set_option autoImplicit false

namespace TemplateQuery

namespace Value

/-- The order of two numbers: `none` when one of the values is no number, `some none` when one is not
ordered. -/
def numericOrder? : Value → Value → Option (Option Ordering)
  | .integer a, .integer b => some (some (compare a b))
  | a, b =>
    match a.toDecimal?, b.toDecimal? with
    | some x, some y => some (some (x.order y))
    | _, _ =>
      match a.toDouble?, b.toDouble? with
      | some x, some y => some (x.order? y)
      | _, _ => none

def order (a b : Value) : Except TypeFault (Option Ordering) :=
  match numericOrder? a b with
  | some o => .ok o
  | none =>
    match a, b with
    | .string s l, .string t m => if l = m then .ok (some (compare s t)) else .error (.order a b)
    | .bool s, .bool t => .ok (some (compare s.toNat t.toNat))
    | .dateTime s, .dateTime t => .ok (some (s.instant.order t.instant))
    | _, _ => .error (.order a b)

def equal (a b : Value) : Except TypeFault Bool :=
  match numericOrder? a b with
  | some o => .ok (o == some .eq)
  | none =>
    match a, b with
    | .dateTime s, .dateTime t => .ok (s.instant = t.instant)
    | .typed s d, .typed t e => if s = t ∧ d = e then .ok true else .error (.equality a b)
    | _, _ => .ok (a = b)

def compareBy (op : Comparison) (a b : Value) : Except TypeFault Bool :=
  match op with
  | .eq => equal a b
  | .ne => (equal a b).map (!·)
  | op => (order a b).map fun o => o.any op.holds

end Value

end TemplateQuery
