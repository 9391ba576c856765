import TemplateQuery.Iri
import TemplateQuery.ReadError

/-! The declarations at the head of a query: a base and namespaces. -/

set_option autoImplicit false

namespace TemplateQuery

structure Prologue where
  base : Option String := none
  /-- Labels with their namespaces, in order. -/
  namespaces : List (String × String) := []
  deriving DecidableEq, Repr

namespace Prologue

/-- The namespace of a label; the latest declaration counts. -/
def namespace? (p : Prologue) (label : String) : Option String := p.namespaces.reverse.lookup label

def resolve (p : Prologue) (reference : String) : String :=
  match p.base with
  | some base => if Iri.isAbsolute reference then reference else Iri.resolve base reference
  | none => reference

def expand (p : Prologue) (label localPart : String) : Except ReadError String :=
  match p.namespace? label with
  | some ns => .ok (ns ++ localPart)
  | none => .error (.undeclared label)

def setBase (p : Prologue) (iri : String) : Prologue := { p with base := some (p.resolve iri) }

def declare (p : Prologue) (label iri : String) : Prologue :=
  { p with namespaces := p.namespaces ++ [(label, p.resolve iri)] }

end Prologue

end TemplateQuery
