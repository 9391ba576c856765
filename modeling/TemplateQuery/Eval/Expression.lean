import TemplateQuery.Eval.Call
import TemplateQuery.Expression
import TemplateQuery.Value.Cast
import TemplateQuery.Value.Order

/-! The value of an expression. A disjunction or conjunction that one side decides does not fail because
the other side does; everything else fails with its parts. -/

set_option autoImplicit false

namespace TemplateQuery

namespace Eval

/-- A disjunction (`decisive = true`) or conjunction of two outcomes. -/
def logical (decisive : Bool) (left right : Except EvalError Bool) : Except EvalError Bool :=
  match left, right with
  | .ok l, .ok r => .ok (if l == decisive || r == decisive then decisive else !decisive)
  | .ok l, .error e => if l == decisive then .ok decisive else .error e
  | .error e, .ok r => if r == decisive then .ok decisive else .error e
  | .error e, .error _ => .error e

/-- Both sides are evaluated, whatever the first one gives. -/
def both (decisive : Bool) (left right : Eval Value) : Eval Value := do
  let l ← attempt (left >>= truth)
  let r ← attempt (right >>= truth)
  match logical decisive l r with
  | .ok b => return .bool b
  | .error e => throw e

def member (needle : Value) (negated : Bool) (failure : Option EvalError) : List (Eval Value) → Eval Value
  | [] =>
    match failure with
    | some e => throw e
    | none => return .bool negated
  | item :: rest => do
    match ← attempt (item >>= fun v => ofExcept (needle.equal v)) with
    -- An equal item decides, even after a failure.
    | .ok true => return .bool !negated
    | .ok false => member needle negated failure rest
    | .error e => member needle negated (some e) rest

def binary (op : BinaryOperator) (left right : Eval Value) : Eval Value :=
  match op with
  | .or => both true left right
  | .and => both false left right
  | .compare op => do
    let l ← left
    let r ← right
    return .bool (← ofExcept (l.compareBy op r))
  | .arithmetic op => do
    let l ← left
    let r ← right
    ofOutcome (l.arithmetic op r)

def unary (op : UnaryOperator) (operand : Eval Value) : Eval Value := do
  let v ← operand
  match op with
  | .not => return .bool !(← truth v)
  | .neg => ofExcept v.negate
  | .pos => if v.isNumeric then return v else failType .plus

end Eval

mutual

def Expression.eval (c : Context) : Expression → Eval Value
  | .var name =>
    match (c.row.get? name).bind Value.ofTerm? with
    | some v => return v
    | none => throw (.unbound name)
  | .term t =>
    match Value.ofTerm? t with
    | some v => return v
    | none => throw (.unbound t.key)
  | .binary op left right => Eval.binary op (left.eval c) (right.eval c)
  | .unary op operand => Eval.unary op (operand.eval c)
  | .call .bound [.var name] => return .bool (c.row.get? name).isSome
  | .call f args => Builtin.call c f (Expression.evalEach c args)
  | .cast datatype arg => do Eval.ofOutcome ((← arg.eval c).castTo datatype)
  | .inList test items negated => do Eval.member (← test.eval c) negated none (Expression.evalEach c items)
  | .existsGroup negated => return .bool !negated

def Expression.evalEach (c : Context) : List Expression → List (Eval Value)
  | [] => []
  | e :: rest => e.eval c :: Expression.evalEach c rest

end

end TemplateQuery
