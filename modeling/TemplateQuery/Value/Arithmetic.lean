import TemplateQuery.EvalError

/-! Arithmetic on values. Integers stay integers except under division, exact numbers become decimals,
and anything with a double becomes a double. -/

set_option autoImplicit false

namespace TemplateQuery

namespace Value

def onDoubles : Arithmetic → Double → Double → Double
  | .add => Binary.add
  | .sub => Binary.sub
  | .mul => Binary.mul
  | .div => Binary.div

def onDecimals (op : Arithmetic) (a b : Decimal) : Outcome Decimal :=
  match op with
  | .add => some (.ok (a.add b))
  | .sub => some (.ok (a.sub b))
  | .mul => (a.mul b).map .ok
  | .div => if b.isZero then some (.error .divisionByZero) else (a.div b).map .ok

def arithmetic (op : Arithmetic) (a b : Value) : Outcome Value :=
  match op, a, b with
  | .add, .integer m, .integer n => some (.ok (.integer (m + n)))
  | .sub, .integer m, .integer n => some (.ok (.integer (m - n)))
  | .mul, .integer m, .integer n => some (.ok (.integer (m * n)))
  | op, a, b =>
    match a.toDecimal?, b.toDecimal? with
    | some x, some y => (onDecimals op x y).map (Except.map .decimal)
    | _, _ =>
      match a.toDouble?, b.toDouble? with
      | some x, some y => some (.ok (.double (onDoubles op x y)))
      | _, _ => some (.error (.type (.operands op a b)))

def negate : Value → Except TypeFault Value
  | .integer n => .ok (.integer (-n))
  | .decimal d => .ok (.decimal d.neg)
  | .double d => .ok (.double d.neg)
  | v => .error (.negation v)

inductive Rounding where
  | floor | ceil | half

namespace Rounding

def onDecimal : Rounding → Decimal → Option Int
  | floor, d => d.floor
  | ceil, d => d.ceil
  | half, d => d.round

def oneHalf : Double := .ofRatio false 1 2

def onDouble : Rounding → Double → Double
  | floor, d => d.floor
  | ceil, d => d.ceil
  | half, d => (d.add oneHalf).floor

end Rounding

def round (f : Function) (r : Rounding) : Value → Outcome Value
  | .integer n => some (.ok (.integer n))
  | .decimal d => (r.onDecimal d).map fun n => .ok (.decimal (.ofInt n))
  | .double d => some (.ok (.double (r.onDouble d)))
  | v => some (.error (.type (.numericArgument f v)))

def abs (f : Function) : Value → Outcome Value
  | .integer n => some (.ok (.integer n.natAbs))
  | .decimal d => some (.ok (.decimal d.abs))
  | .double d => some (.ok (.double d.abs))
  | v => some (.error (.type (.numericArgument f v)))

end Value

end TemplateQuery
