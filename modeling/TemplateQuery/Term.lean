import TemplateQuery.Iri
import TemplateQuery.Vocabulary

/-! Terms of templates and queries. An IRI comes in three shapes, absolute, compact and as written
against a base; they denote the same resource when they expand to the same absolute IRI. -/

set_option autoImplicit false

namespace TemplateQuery

inductive Tag where
  | simple
  | lang (tag : String)
  | typed (datatype : String)
  deriving DecidableEq, Repr, Inhabited

inductive Term where
  /-- A query variable, without its mark. -/
  | var (name : String)
  | iri (iri : String)
  /-- A compact IRI with its expansion. -/
  | curie (label localPart iri : String)
  /-- A reference as written, with its resolution against the base. -/
  | reference (relative resolved : String)
  /-- A blank node, without the `_:` mark. -/
  | blank (label : String)
  | literal (lexical : String) (tag : Tag)
  deriving DecidableEq, Repr, Inhabited

namespace Term

def plain (lexical : String) : Term := .literal lexical .simple

def typed (lexical datatype : String) : Term := .literal lexical (.typed datatype)

def boolean (b : Bool) : Term := typed (if b then "true" else "false") Vocabulary.xsdBoolean

def referTo (base relative : String) : Term := .reference relative (Iri.resolve base relative)

def isVar : Term → Bool
  | .var _ => true
  | _ => false

def isLiteral : Term → Bool
  | .literal _ _ => true
  | _ => false

def iri? : Term → Option String
  | .iri i => some i
  | .curie _ _ i => some i
  | .reference _ resolved => some resolved
  | _ => none

def key : Term → String
  | .var name => name
  | .iri i => i
  | .curie _ _ i => i
  | .reference _ resolved => resolved
  | .blank label => "_:" ++ label
  | .literal lexical _ => lexical

def rebase (base : String) : Term → Term
  | .reference relative _ => referTo base relative
  | t => t

/-- Whether two terms denote the same: IRI-valued terms by their absolute IRI, others by shape. -/
def same : Term → Term → Bool
  | .var a, .var b => a == b
  | .blank a, .blank b => a == b
  | .literal a s, .literal b t => a == b && s == t
  | a, b =>
    match a.iri?, b.iri? with
    | some i, some j => i == j
    | _, _ => false

def canonical (t : Term) : Term :=
  match t.iri? with
  | some i => .iri i
  | none => t

def display : Term → String
  | .var name => "?" ++ name
  | .iri i => "<" ++ i ++ ">"
  | .curie label localPart _ => label ++ ":" ++ localPart
  | .reference relative _ => "<" ++ relative ++ ">"
  | .blank label => "_:" ++ label
  | .literal lexical .simple => "\"" ++ lexical ++ "\""
  | .literal lexical (.lang tag) => "\"" ++ lexical ++ "\"@" ++ tag
  | .literal lexical (.typed datatype) => "\"" ++ lexical ++ "\"^^<" ++ datatype ++ ">"

end Term

end TemplateQuery
