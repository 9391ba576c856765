import TemplateQuery.Term.Written

/-! Parameterized queries: a text, and named parameters with sample values. -/

set_option autoImplicit false

namespace TemplateQuery

structure Template where
  text : String
  /-- Where the query was found; references in parameters are read against it. -/
  systemId : String
  /-- Labels with their namespaces. -/
  namespaces : List (String × String) := []
  /-- Parameters in the order of their columns, each with the value it has by default. -/
  bindings : List (String × Option Term) := []
  deriving DecidableEq, Repr

abbrev Parameters := List (String × List String)

namespace Parameters

def add (ps : Parameters) (name value : String) : Parameters :=
  match ps with
  | [] => [(name, [value])]
  | (n, values) :: rest => if n = name then (n, values ++ [value]) :: rest else (n, values) :: add rest name value

end Parameters

namespace Template

def names (q : Template) : List String := q.bindings.map Prod.fst

def sample? (q : Template) (name : String) : Option Term := (q.bindings.lookup name).join

def prologue (q : Template) : Prologue :=
  { base := if q.systemId = "" then none else some q.systemId, namespaces := q.namespaces }

/-- The term for a supplied text: of the kind of the parameter's sample, or as the text is written when
that leaves it open. -/
def resolve? (q : Template) (name value : String) : Option Term :=
  match q.sample? name with
  | some (.literal _ tag) => some (.literal value tag)
  | some (.iri _) | some (.curie _ _ _) | some (.reference _ _) => some (.iri (Iri.resolve q.systemId value))
  | _ => Term.ofWritten? q.prologue value

def sorted (q : Template) : List (String × Option Term) := q.bindings.mergeSort fun a b => decide (a.1 ≤ b.1)

def sameSample : Option Term → Option Term → Bool
  | none, none => true
  | some t, some u => t.same u
  | _, _ => false

def sameBindings : List (String × Option Term) → List (String × Option Term) → Bool
  | [], [] => true
  | (m, s) :: rest, (n, t) :: others => m == n && sameSample s t && sameBindings rest others
  | _, _ => false

def same (p q : Template) : Bool :=
  p.text == q.text && p.systemId == q.systemId && sameBindings p.sorted q.sorted

def identity (q : Template) : String × String × List (String × Option Term) :=
  (q.text, q.systemId, q.sorted.map fun (name, sample) => (name, sample.map Term.canonical))

end Template

end TemplateQuery
