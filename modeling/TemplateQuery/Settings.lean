import TemplateQuery.Clause
import TemplateQuery.Toml.Reader

/-! Settings from a file. What is not set there is left to the command line and to defaults. -/

set_option autoImplicit false

namespace TemplateQuery

structure Settings where
  shape : Option Shape := none
  unionForm : Option Bool := none
  systemId : Option String := none
  /-- Namespaces for every template, in the order of their labels. -/
  namespaces : List (String × String) := []
  deriving DecidableEq, Repr, Inhabited

namespace Settings

/-- A shape is given by its name, or by a table with nothing under its name. -/
def shapeOf? : Toml → Option Shape
  | .text name => Shape.ofName? name
  | .table _ [(name, .emptyArray)] => Shape.ofName? name
  | .table _ [(name, .table _ [])] => Shape.ofName? name
  | _ => none

def labelled? : String × Toml → Option (String × String)
  | (label, .text iri) => some (label, iri)
  | _ => none

def namespacesOf? : Toml → Option (List (String × String))
  | .table _ entries => (entries.mapM labelled?).map (·.mergeSort fun a b => decide (a.1 ≤ b.1))
  | _ => none

def set? (s : Settings) (key : String) (content : Toml) : Option Settings :=
  match key, content with
  | "shape", content => (shapeOf? content).map fun shape => { s with shape := some shape }
  | "union_form", .flag b => some { s with unionForm := some b }
  | "system_id", .text iri => some { s with systemId := some iri }
  | "prefixes", content => (namespacesOf? content).map fun namespaces => { s with namespaces }
  | _, _ => none

def ofText? (text : String) : Option Settings := do
  (← Toml.ofChars? text.toList).foldlM (fun s (key, content) => s.set? key content) {}

def layout (s : Settings) (shape : Option Shape) (noUnion : Bool) : Layout :=
  { shape := (shape.or s.shape).getD .select, unionForm := !noUnion && s.unionForm.getD true }

end Settings

end TemplateQuery
