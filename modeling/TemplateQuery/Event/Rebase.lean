import TemplateQuery.Event

/-! Another base for a document: it is announced ahead of the content, takes the place of the
document's own base, and every reference is resolved against it. -/

set_option autoImplicit false

namespace TemplateQuery.Event

/-- Which base of the document gives way, any when absent, and what takes its place. -/
structure BaseChange where
  replaced : Option String
  replacement : Option String
  deriving DecidableEq, Repr

namespace BaseChange

def term (change : BaseChange) (t : Term) : Term :=
  match change.replacement with
  | some iri => t.rebase iri
  | none => t

def node (change : BaseChange) (n : Node) : Node := { n with term := change.term n.term }

def announces : Event → Bool
  | startDocument | declare _ _ | base _ => false
  | _ => true

def gives (change : BaseChange) (declared : String) : Bool :=
  match change.replaced with
  | none => true
  | some iri => Iri.resolve iri declared == iri

/-- What one event becomes; a base that gives way to nothing disappears. -/
def event (change : BaseChange) : Event → List Event
  | base declared =>
    if change.gives declared then change.replacement.toList.map base else [base declared]
  | startSubject n => [startSubject (change.node n)]
  | endSubject n => [endSubject (change.node n)]
  | startGraph t => [startGraph (change.term t)]
  | endGraph t => [endGraph (change.term t)]
  | triple t => [triple
      { t with
        subject := change.node t.subject
        predicate := change.node t.predicate
        object := change.node t.object }]
  | pattern p => [pattern
      { p with
        subject := change.term p.subject
        predicate := change.term p.predicate
        object := change.term p.object }]
  | e => [e]

/-- The stream after the change; `based` says whether a base was seen or announced before. -/
def applyFrom (change : BaseChange) (based : Bool) : List Event → List Event
  | [] => []
  | e :: es =>
    (if !based && announces e then change.replacement.toList.map base else []) ++
      change.event e ++
      change.applyFrom (based || announces e || (match e with | base _ => true | _ => false)) es

def apply (change : BaseChange) (events : List Event) : List Event := change.applyFrom false events

end BaseChange

end TemplateQuery.Event
