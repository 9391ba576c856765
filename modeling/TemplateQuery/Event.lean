import TemplateQuery.Term

/-! Events: the structure of a template on the way in, the clauses of a query on the way out. -/

set_option autoImplicit false

namespace TemplateQuery

/-- A term together with the place in the template it was read from. -/
structure Node where
  term : Term
  origin : Option String := none
  deriving DecidableEq, Repr, Inhabited

/-- The first of the blank-separated places. -/
def Node.primaryOrigin (n : Node) : Option String :=
  n.origin.map fun o => String.ofList (o.toList.takeWhile (· != ' '))

structure Triple where
  subject : Node
  predicate : Node
  object : Node
  /-- Written against the object. -/
  inverse : Bool
  deriving DecidableEq, Repr, Inhabited

/-- The end the statement is written about. -/
def Triple.about (t : Triple) : Node := if t.inverse then t.object else t.subject

def Triple.partner (t : Triple) : Node := if t.inverse then t.subject else t.object

structure Pattern where
  subject : Term
  predicate : Term
  object : Term
  inverse : Bool
  deriving DecidableEq, Repr, Inhabited

def Pattern.about (p : Pattern) : Term := if p.inverse then p.object else p.subject

def Pattern.partner (p : Pattern) : Term := if p.inverse then p.subject else p.object

inductive Bracket where
  | opening
  | closing
  deriving DecidableEq, Repr, Inhabited

inductive Event where
  | startDocument
  | endDocument
  | base (iri : String)
  /-- `label` stands for the namespace `iri`. -/
  | declare (label iri : String)
  | startSubject (node : Node)
  | endSubject (node : Node)
  | startGraph (term : Term)
  | endGraph (term : Term)
  | triple (triple : Triple)
  | pattern (pattern : Pattern)
  /-- Text of a comment, without its mark. -/
  | comment (text : String)
  | select
  | ask
  | whereBlock (half : Bracket)
  | optional (half : Bracket)
  | group (half : Bracket)
  | union
  | orderBy (names : List String)
  deriving DecidableEq, Repr, Inhabited

namespace Event

def isStart : Event → Bool
  | startDocument | startSubject _ | startGraph _ => true
  | _ => false

def isEnd : Event → Bool
  | endDocument | endSubject _ | endGraph _ => true
  | _ => false

end Event

end TemplateQuery
