import TemplateQuery.Expression.Function
import TemplateQuery.Expression.Operator
import TemplateQuery.Term

/-! Expressions over the variables of a solution. -/

set_option autoImplicit false

namespace TemplateQuery

inductive Expression where
  | var (name : String)
  | term (t : Term)
  | binary (op : BinaryOperator) (left right : Expression)
  | unary (op : UnaryOperator) (operand : Expression)
  | call (function : Function) (args : List Expression)
  /-- Conversion to a datatype. -/
  | cast (datatype : String) (arg : Expression)
  /-- Membership in a list, or its denial. -/
  | inList (test : Expression) (items : List Expression) (negated : Bool)
  /-- Whether the empty group has a solution, or its denial. -/
  | existsGroup (negated : Bool)

end TemplateQuery
