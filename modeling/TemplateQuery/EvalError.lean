import TemplateQuery.Expression.Function
import TemplateQuery.Expression.Operator
import TemplateQuery.Value

/-! Why an expression has no value. -/

set_option autoImplicit false

namespace TemplateQuery

inductive TypeFault where
  | noTruth (v : Value)
  | operands (op : Arithmetic) (left right : Value)
  | negation (v : Value)
  | plus
  | order (left right : Value)
  | equality (left right : Value)
  | cast (v : Value) (datatype : String)
  | numericArgument (f : Function) (v : Value)
  | stringArgument (f : Function) (v : Value)
  | dateTimeArgument (f : Function) (v : Value)
  | iriArgument (v : Value)
  | datatypeArgument (v : Value)
  | boundArgument
  | noneBound
  | noTimezone
  | incompatibleTags (f : Function)
  | notFinite (f : Function)
  | taggedArgument (f : Function)
  | blankText
  | langOfNonLiteral
  | datatypeOfNonLiteral
  | strLangArguments

namespace TypeFault

def shown (v : Value) : String := "(" ++ (v.toTerm.map Term.display).getD "" ++ ")"

def text : TypeFault → String
  | noTruth v => "no effective boolean value for " ++ shown v
  | operands op l r => "'" ++ op.text ++ "' needs numeric operands, got " ++ shown l ++ " and " ++ shown r
  | negation v => "cannot negate " ++ shown v
  | plus => "unary + on a non-numeric value"
  | order l r => "cannot order " ++ shown l ++ " and " ++ shown r
  | equality l r => "cannot compare " ++ shown l ++ " and " ++ shown r
  | cast v datatype => "cannot cast " ++ shown v ++ " to <" ++ datatype ++ ">"
  | numericArgument f v => f.name ++ " expects a numeric argument, got " ++ shown v
  | stringArgument f v => f.name ++ " expects a string literal, got " ++ shown v
  | dateTimeArgument f v => f.name ++ " expects xsd:dateTime, got " ++ shown v
  | iriArgument v => "IRI of " ++ shown v
  | datatypeArgument v => "STRDT datatype " ++ shown v
  | boundArgument => "BOUND argument must be a variable"
  | noneBound => "COALESCE found no bound argument"
  | noTimezone => "TIMEZONE of a dateTime without timezone"
  | incompatibleTags f => f.name ++ " arguments have incompatible language tags"
  | notFinite f => f.name ++ " position is not finite"
  | taggedArgument f => f.name ++ " of a language-tagged string"
  | blankText => "STR of a blank node"
  | langOfNonLiteral => "LANG of a non-literal"
  | datatypeOfNonLiteral => "DATATYPE of a non-literal"
  | strLangArguments => "STRLANG needs a simple string and a tag"

end TypeFault

inductive PatternFault where
  | unknownFlag (c : Char)
  | matchesEmpty
  | malformed
  deriving DecidableEq, Repr

def PatternFault.text : PatternFault → String
  | unknownFlag c => "unknown regex flag '" ++ c.toString ++ "'"
  | matchesEmpty => "REPLACE pattern matches the empty string"
  | malformed => "malformed pattern"

inductive EvalError where
  | unbound (name : String)
  | arity (f : Function)
  | type (fault : TypeFault)
  | divisionByZero
  | pattern (fault : PatternFault)

/-- A result or a failure. There is neither where a scale does not fit 64 bits: that ends the evaluation, and nothing
can be made of it. -/
abbrev Outcome (α : Type) := Option (Except EvalError α)

def EvalError.message : EvalError → String
  | unbound name => "variable ?" ++ name ++ " is unbound"
  | arity f => f.name ++ " requires " ++ f.arity?.getD "any arguments"
  | type fault => "type error: " ++ fault.text
  | divisionByZero => "division by zero"
  | pattern fault => "invalid regular expression: " ++ fault.text

end TemplateQuery
