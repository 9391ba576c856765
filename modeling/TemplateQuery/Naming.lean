import TemplateQuery.Event
import TemplateQuery.Naming.Label
import TemplateQuery.Naming.Registry
import TemplateQuery.Origins
import TemplateQuery.Text.Blank

/-! From terms of the template to terms of the query. What the template names by `?` becomes that
variable, what it leaves open becomes a variable named after the predicate it hangs off, and all else
stays. -/

set_option autoImplicit false

namespace TemplateQuery

def Violation.message : Violation → String
  | invalid name => "invalid variable name: " ++ name
  | exhausted label => "too many variables named after " ++ label

def Term.variable (name : String) : Except Violation Term :=
  if Token.isVarName name.toList then .ok (.var name) else .error (.invalid name)

inductive Role where
  | itself
  /-- A literal that names its variable. -/
  | pinned (name : String)
  /-- A reference that names its variable. -/
  | named (name : String)
  /-- A literal of white space only, to be filled in. -/
  | hole
  /-- A blank node, known by its key. -/
  | resource (key : String)
  deriving DecidableEq, Repr

def Role.isPinned : Role → Bool
  | pinned _ => true
  | _ => false

def markedName? (text : String) : Option String :=
  match text.toList with
  | '?' :: name => some (String.ofList name)
  | _ => none

/-- The variable that a reference names; `?this` stands for the page itself. -/
def referenceName? (relative : String) : Option String :=
  if relative = "?this" then none else markedName? relative

def Term.role (t : Term) : Role :=
  match t with
  | .literal lexical _ =>
    if lexical.toList.all Text.isBlank then .hole
    else (markedName? lexical).elim .itself .pinned
  | .blank _ => .resource t.key
  | .reference relative _ => (referenceName? relative).elim .itself .named
  | .var _ | .iri _ | .curie _ _ _ => .itself

structure Naming where
  registry : Registry := {}
  origins : Origins := {}
  deriving DecidableEq, Repr, Inhabited

namespace Naming

/-- The label of a triple for one of its ends: that of the predicate, behind the name of the opposite
end when that is a variable. -/
def label (n : Naming) (node : Node) (t : Triple) : String :=
  let stem := Label.ofPredicate t.predicate.term t.inverse
  let opposite := if node.term.same t.subject.term then t.object.term else t.subject.term
  match opposite with
  | .iri _ | .curie _ _ _ => stem
  | .reference relative _ => (referenceName? relative).elim stem (· ++ "_" ++ stem)
  | other => (n.registry.lookup other.key).getD "" ++ "_" ++ stem

def capture (n : Naming) (wanted : Bool) (name : String) (node : Node) : Naming :=
  match wanted, node.origin with
  | true, some origin => { n with origins := n.origins.insert name origin }
  | _, _ => n

/-- The name of the variable that a node becomes, if it becomes one, and the names given by then. -/
def asked? (n : Naming) (node : Node) (triple? : Option Triple) : Except Violation (Option (String × Registry)) :=
  let label? := triple?.map (n.label node)
  match node.term.role with
  | .itself => .ok none
  | .pinned name | .named name => .ok (some (name, n.registry))
  | .hole =>
    match label? with
    | none => .ok (some ("_", n.registry))
    | some label => (n.registry.fresh label).map fun (name, registry) => some ("_" ++ name, registry)
  | .resource key =>
    (n.registry.nameFor key label?).map fun (name?, registry) => some ("_" ++ name?.getD "", registry)

/-- The term of the query for one end of a triple, or for a subject alone. Names given on the way stay given, also
when the outcome is a violation. -/
def resolve (n : Naming) (node : Node) (triple? : Option Triple) (record : Bool) :
    Except Violation Term × Naming :=
  match n.asked? node triple? with
  | .error v => (.error v, n)
  | .ok none => (.ok node.term, n)
  | .ok (some (name, registry)) =>
    -- Outside a triple only a literal that names its variable is captured.
    let wanted := record && (triple?.isSome || node.term.role.isPinned)
    (Term.variable name, { n with registry }.capture wanted name node)

/-- A triple is optional when the end it leads to is a variable. -/
def isOptional (n : Naming) (t : Triple) : Except Violation Bool :=
  (n.resolve t.partner none false).1.map Term.isVar

def isPromoted (n : Naming) (t : Triple) : Bool :=
  t.object.term.isLiteral && t.object.origin.any n.origins.hasOrigin

end Naming

end TemplateQuery
