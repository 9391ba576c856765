import TemplateQuery.Eval.Arguments
import TemplateQuery.Regex.Replace
import TemplateQuery.Text.Percent

/-! Functions on text. -/

set_option autoImplicit false

namespace TemplateQuery

open Text

namespace Builtin

def leastPosition : Int := -2 ^ (63 : Nat)

def greatestPosition : Int := 2 ^ (63 : Nat) - 1

def clamp (n : Int) : Int := max leastPosition (min greatestPosition n)

def position (f : Function) (arg : Eval Value) : Eval Int := do
  let v ← arg
  match v.toDouble? with
  | none => Eval.failType (.numericArgument f v)
  | some d =>
    match d.nearest? with
    | some n => return clamp n
    | none => Eval.failType (.notFinite f)

/-- The characters from a position on, counted from one, and before another. -/
def window (text : List Char) (start : Int) (stop : Option Int) : List Char :=
  (text.zipIdx.filter fun (_, i) => start ≤ i + 1 && stop.all fun stop => (i : Int) + 1 < stop).map Prod.fst

/-- So many characters from a position on, or all; the end is clamped to a position. -/
def substring (text : List Char) (start : Int) (length : Option Int) : List Char :=
  window text start (length.map fun n => clamp (start + n))

/-- The text before and after the first occurrence of another; both are empty when there is none. -/
def before (a b : StringArg) : Value :=
  match splitFirst? b.text a.text with
  | some (front, _) => a.withText front
  | none => Value.plain []

def after (a b : StringArg) : Value :=
  match splitFirst? b.text a.text with
  | some (_, back) => a.withText back
  | none => Value.plain []

/-- The texts one after the other; their language is kept when they all have the same. -/
def concatFrom (text : List Char) (lang : Option (Option String)) : Arguments → Eval Value
  | [] => return .string (String.ofList text) (lang.getD none)
  | arg :: rest => do
    let s ← Eval.string .concat arg
    concatFrom (text ++ s.text) (some (match lang with
      | none => s.lang
      | some l => if l = s.lang then l else none)) rest

def settings (flags : List Char) : Except PatternFault Regex.Settings :=
  flags.foldlM (fun s c => match c with
    | 'i' => .ok { s with ignoreCase := true }
    | 'm' => .ok { s with multiLine := true }
    | 's' => .ok { s with dotAll := true }
    | 'x' => .ok { s with verbose := true }
    | c => .error (.unknownFlag c)) {}

def matcher (pattern flags : List Char) : Except PatternFault Regex.Matcher := do
  match Regex.Matcher.ofText? (← settings flags) pattern with
  | some m => .ok m
  | none => .error .malformed

def ofPattern {α : Type} : Except PatternFault α → Eval α
  | .ok a => pure a
  | .error fault => throw (.pattern fault)

def flagText (f : Function) (flags : Option (Eval Value)) : Eval (List Char) :=
  match flags with
  | none => return []
  | some arg => do return (← Eval.string f arg).text

def regex (text pattern : Eval Value) (flags : Option (Eval Value)) : Eval Value := do
  let text ← Eval.string .regex text
  let pattern ← Eval.string .regex pattern
  let flags ← flagText .regex flags
  let m ← ofPattern (matcher pattern.text flags)
  return .bool (m.isMatch text.text)

/-- Every match replaced; a pattern that matches the empty text is refused. -/
def replace (text pattern replacement : Eval Value) (flags : Option (Eval Value)) : Eval Value := do
  let text ← Eval.string .replace text
  let pattern ← Eval.string .replace pattern
  let replacement ← Eval.string .replace replacement
  let flags ← flagText .replace flags
  let m ← ofPattern (matcher pattern.text flags)
  if m.isMatch [] then throw (.pattern .matchesEmpty)
  return text.withText (m.replaceAll replacement.text text.text)

def substr (text start : Eval Value) (length : Option (Eval Value)) : Eval Value := do
  let s ← Eval.string .subStr text
  let first ← position .subStr start
  match length with
  | none => return s.withText (substring s.text first none)
  | some arg => do
    let n ← position .subStr arg
    return s.withText (substring s.text first (some n))

def mapText (f : Function) (g : List Char → List Char) (args : Arguments) : Eval Value :=
  args.one f fun a => do
    let s ← Eval.string f a
    return s.withText (g s.text)

def testTexts (f : Function) (g : List Char → List Char → Bool) (args : Arguments) : Eval Value :=
  args.two f fun a b => do
    let (s, t) ← Eval.compatibleStrings f a b
    return .bool (g s.text t.text)

def cutText (f : Function) (g : StringArg → StringArg → Value) (args : Arguments) : Eval Value :=
  args.two f fun a b => do
    let (s, t) ← Eval.compatibleStrings f a b
    return g s t

def strlen (args : Arguments) : Eval Value :=
  args.one .strLen fun a => do return .integer (← Eval.string .strLen a).text.length

def encodeForUri (args : Arguments) : Eval Value :=
  args.one .encodeForUri fun a => do return .plain (percentEncode (← Eval.string .encodeForUri a).text)

end Builtin

end TemplateQuery
