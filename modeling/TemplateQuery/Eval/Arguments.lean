import TemplateQuery.Eval

/-! Arguments of built-in functions. They come unevaluated, and a wrong number of them is found before any
is evaluated. -/

set_option autoImplicit false

namespace TemplateQuery

abbrev Arguments := List (Eval Value)

namespace Arguments

def zero (f : Function) (args : Arguments) (k : Eval Value) : Eval Value :=
  match args with
  | [] => k
  | _ => throw (.arity f)

def one (f : Function) (args : Arguments) (k : Eval Value → Eval Value) : Eval Value :=
  match args with
  | [a] => k a
  | _ => throw (.arity f)

def two (f : Function) (args : Arguments) (k : Eval Value → Eval Value → Eval Value) : Eval Value :=
  match args with
  | [a, b] => k a b
  | _ => throw (.arity f)

def three (f : Function) (args : Arguments) (k : Eval Value → Eval Value → Eval Value → Eval Value) :
    Eval Value :=
  match args with
  | [a, b, c] => k a b c
  | _ => throw (.arity f)

def zeroOrOne (f : Function) (args : Arguments) (k : Option (Eval Value) → Eval Value) : Eval Value :=
  match args with
  | [] => k none
  | [a] => k (some a)
  | _ => throw (.arity f)

def twoOrThree (f : Function) (args : Arguments)
    (k : Eval Value → Eval Value → Option (Eval Value) → Eval Value) : Eval Value :=
  match args with
  | [a, b] => k a b none
  | [a, b, c] => k a b (some c)
  | _ => throw (.arity f)

def threeOrFour (f : Function) (args : Arguments)
    (k : Eval Value → Eval Value → Eval Value → Option (Eval Value) → Eval Value) : Eval Value :=
  match args with
  | [a, b, c] => k a b c none
  | [a, b, c, d] => k a b c (some d)
  | _ => throw (.arity f)

end Arguments

structure StringArg where
  text : List Char
  lang : Option String

namespace StringArg

def withText (s : StringArg) (text : List Char) : Value := .string (String.ofList text) s.lang

/-- Whether a second argument goes with a first: it has no language, or the same one. -/
def compatible (first second : StringArg) : Bool := second.lang.isNone || first.lang == second.lang

end StringArg

namespace Eval

def string (f : Function) (arg : Eval Value) : Eval StringArg := do
  match ← arg with
  | .string text lang => return ⟨text.toList, lang⟩
  | v => failType (.stringArgument f v)

def untagged (f : Function) (arg : Eval Value) : Eval (List Char) := do
  let s ← string f arg
  if s.lang.isSome then failType (.taggedArgument f) else return s.text

def compatibleStrings (f : Function) (first second : Eval Value) : Eval (StringArg × StringArg) := do
  let a ← string f first
  let b ← string f second
  if a.compatible b then return (a, b) else failType (.incompatibleTags f)

end Eval

end TemplateQuery
