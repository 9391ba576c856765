/-! Operators of expressions. -/

set_option autoImplicit false

namespace TemplateQuery

inductive Comparison where
  | eq | ne | lt | le | gt | ge
  deriving DecidableEq, Repr

namespace Comparison

def text : Comparison → String
  | eq => "="
  | ne => "!="
  | lt => "<"
  | le => "<="
  | gt => ">"
  | ge => ">="

def holds : Comparison → Ordering → Bool
  | eq, o => o == .eq
  | ne, o => o != .eq
  | lt, o => o == .lt
  | le, o => o != .gt
  | gt, o => o == .gt
  | ge, o => o != .lt

end Comparison

inductive Arithmetic where
  | add | sub | mul | div
  deriving DecidableEq, Repr

def Arithmetic.text : Arithmetic → String
  | add => "+"
  | sub => "-"
  | mul => "*"
  | div => "/"

inductive BinaryOperator where
  | and
  | or
  | compare (op : Comparison)
  | arithmetic (op : Arithmetic)
  deriving DecidableEq, Repr

def BinaryOperator.text : BinaryOperator → String
  | and => "&&"
  | or => "||"
  | compare op => op.text
  | arithmetic op => op.text

inductive UnaryOperator where
  | not | neg | pos
  deriving DecidableEq, Repr

def UnaryOperator.text : UnaryOperator → String
  | not => "!"
  | neg => "-"
  | pos => "+"

end TemplateQuery
