import TemplateQuery.Eval.Arguments

/-! Functions on terms. -/

set_option autoImplicit false

namespace TemplateQuery

namespace Builtin

def ask (f : Function) (p : Value → Bool) (args : Arguments) : Eval Value :=
  args.one f fun a => do return .bool (p (← a))

def isIri : Value → Bool
  | .iri _ => true
  | _ => false

def isBlank : Value → Bool
  | .blank _ => true
  | _ => false

def str (args : Arguments) : Eval Value :=
  args.one .str fun a => do
    let v ← a
    match v.lexical? with
    | some text => return .string text none
    | none => if isBlank v then Eval.failType .blankText else Eval.ofOutcome none

def lang (args : Arguments) : Eval Value :=
  args.one .lang fun a => do
    let v ← a
    if v.isLiteral then return .string (v.lang?.getD "") none else Eval.failType .langOfNonLiteral

def datatype (args : Arguments) : Eval Value :=
  args.one .datatype fun a => do
    match (← a).datatype? with
    | some iri => return .iri iri
    | none => Eval.failType .datatypeOfNonLiteral

/-- Text is taken for a reference against the base, if there is one. -/
def iri (base : Option String) (args : Arguments) : Eval Value :=
  args.one .iri fun a => do
    match ← a with
    | .iri i => return .iri i
    | .string text none =>
      return .iri (match base with
        | some base => Iri.resolve base text
        | none => text)
    | v => Eval.failType (.iriArgument v)

def bnode (args : Arguments) : Eval Value :=
  args.zeroOrOne .bnode fun
    | none => do return .blank (← Eval.freshLabel)
    | some a => do
      let name ← Eval.untagged .bnode a
      return .blank (← Eval.labelFor (String.ofList name))

def strDt (args : Arguments) : Eval Value :=
  args.two .strDt fun a b => do
    let lexical ← Eval.untagged .strDt a
    match ← b with
    | .iri datatype => return Value.ofTyped (String.ofList lexical) datatype
    | v => Eval.failType (.datatypeArgument v)

def strLang (args : Arguments) : Eval Value :=
  args.two .strLang fun a b => do
    let s ← Eval.string .strLang a
    let tag ← Eval.string .strLang b
    if s.lang.isSome || tag.text.isEmpty then Eval.failType .strLangArguments
    else return .string (String.ofList s.text) (some (String.ofList tag.text))

def sameTerm (args : Arguments) : Eval Value :=
  args.two .sameTerm fun a b => do
    let left ← a
    let right ← b
    match left.toTerm, right.toTerm with
    | some t, some u => return .bool (t.same u)
    | _, _ => Eval.ofOutcome none

/-- Whether a language tag is in a range: equal to it, or longer by further parts. -/
def tagInRange (tag range : List Char) : Bool :=
  if range = ['*'] then !tag.isEmpty
  else
    let tag := tag.map Char.toLower
    let range := range.map Char.toLower
    tag == range || (range ++ ['-']).isPrefixOf tag

def langMatches (args : Arguments) : Eval Value :=
  args.two .langMatches fun a b => do
    let tag ← Eval.string .langMatches a
    let range ← Eval.string .langMatches b
    return .bool (tagInRange tag.text range.text)

end Builtin

end TemplateQuery
