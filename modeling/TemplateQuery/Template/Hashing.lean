import TemplateQuery.Template

/-! What terms and templates feed a hasher with, piece by piece. -/

set_option autoImplicit false

namespace TemplateQuery

inductive Fed where
  | byte (n : UInt8)
  /-- Which of its variants something is. -/
  | variant (n : Nat)
  /-- How many items follow. -/
  | count (n : Nat)
  | text (text : String)
  deriving DecidableEq, Repr

def Fed.option {α : Type} (feed : α → List Fed) : Option α → List Fed
  | none => [.variant 0]
  | some a => .variant 1 :: feed a

def Tag.fed : Tag → List Fed
  | .simple => [.variant 0]
  | .lang tag => [.variant 1, .text tag]
  | .typed datatype => [.variant 2, .text datatype]

def Term.fed (t : Term) : List Fed :=
  match t with
  | .var name => [.byte 0, .text name]
  | .blank label => [.byte 1, .text label]
  | .literal lexical tag => .byte 2 :: .text lexical :: tag.fed
  | .iri _ | .curie _ _ _ | .reference _ _ => .byte 3 :: Fed.option (fun iri => [.text iri]) t.iri?

def Template.fedBinding (binding : String × Option Term) : List Fed :=
  .text binding.1 :: Fed.option Term.fed binding.2

/-- Parameters go in in the order of their names, and namespaces not at all. -/
def Template.fed (q : Template) : List Fed :=
  .text q.text :: .text q.systemId :: .count q.sorted.length :: q.sorted.flatMap fedBinding

end TemplateQuery
