import TemplateQuery.Event
import TemplateQuery.Json

/-! Terms and events as JSON. A choice is written as its name, or as an object with the name as its
one field; a record as an object, or as an array of its fields in order. -/

set_option autoImplicit false

namespace TemplateQuery

namespace Json

def choice? : Json → Option (String × Option Json)
  | .string name => some (name, none)
  | .object [(name, content)] => some (name, some content)
  | _ => none

/-- The content of one field: absent, present, or repeated and so refused. -/
def field? (name : String) (fields : List (String × Json)) : Option (Option Json) :=
  match fields.filter (·.1 == name) with
  | [] => some none
  | [(_, content)] => some (some content)
  | _ => none

/-- The fields of a record by name or by place. -/
def record? (names : List String) : Json → Option (List (Option Json))
  -- Unknown names are passed over.
  | .object fields => names.mapM (field? · fields)
  | .array items =>
    if items.length ≤ names.length then
      some (items.map some ++ List.replicate (names.length - items.length) none)
    else none
  | _ => none

def string? : Json → Option String
  | .string text => some text
  | _ => none

def bool? : Json → Option Bool
  | .bool b => some b
  | _ => none

end Json

open Json (choice? record?)

namespace Tag

def ofJson? (json : Json) : Option Tag :=
  match choice? json with
  | some ("simple", none) | some ("simple", some .null) => some .simple
  | some ("lang", some (.string tag)) => some (.lang tag)
  | some ("typed", some (.string datatype)) => some (.typed datatype)
  | _ => none

def toJson : Tag → Json
  | .simple => .string "simple"
  | .lang tag => .object [("lang", .string tag)]
  | .typed datatype => .object [("typed", .string datatype)]

end Tag

namespace Term

def ofJson? (json : Json) : Option Term :=
  match choice? json with
  | some ("var", some (.string name)) => some (.var name)
  | some ("iri", some (.string i)) => some (.iri i)
  | some ("blank", some (.string label)) => some (.blank label)
  | some ("curie", some content) =>
    match record? ["prefix", "local", "iri"] content with
    | some [some (.string label), some (.string localPart), some (.string i)] => some (.curie label localPart i)
    | _ => none
  | some ("reference", some content) =>
    match record? ["relative", "resolved"] content with
    | some [some (.string relative), some (.string resolved)] => some (.reference relative resolved)
    | _ => none
  | some ("literal", some content) =>
    match record? ["lexical", "tag"] content with
    | some [some (.string lexical), some tag] => (Tag.ofJson? tag).map (.literal lexical ·)
    | _ => none
  | _ => none

def toJson : Term → Json
  | .var name => .object [("var", .string name)]
  | .iri i => .object [("iri", .string i)]
  | .curie label localPart i => .object [("curie", .object
      [("prefix", .string label), ("local", .string localPart), ("iri", .string i)])]
  | .reference relative resolved => .object [("reference", .object
      [("relative", .string relative), ("resolved", .string resolved)])]
  | .blank label => .object [("blank", .string label)]
  | .literal lexical tag => .object [("literal", .object [("lexical", .string lexical), ("tag", tag.toJson)])]

end Term

namespace Node

def ofJson? (json : Json) : Option Node :=
  match record? ["term", "origin"] json with
  | some [some term, none] | some [some term, some .null] => (Term.ofJson? term).map ({ term := · })
  | some [some term, some (.string origin)] => (Term.ofJson? term).map ({ term := ·, origin := some origin })
  | _ => none

def toJson (n : Node) : Json :=
  .object (("term", n.term.toJson) :: n.origin.toList.map fun origin => ("origin", .string origin))

end Node

def Json.flag? : Option Json → Option Bool
  | none => some false
  | some json => json.bool?

namespace Triple

def ofJson? (json : Json) : Option Triple :=
  match record? ["subject", "predicate", "object", "inverse"] json with
  | some [some s, some p, some o, inverse] => do
    return { subject := ← Node.ofJson? s, predicate := ← Node.ofJson? p, object := ← Node.ofJson? o
             inverse := ← Json.flag? inverse }
  | _ => none

def toJson (t : Triple) : Json :=
  .object [("subject", t.subject.toJson), ("predicate", t.predicate.toJson), ("object", t.object.toJson),
    ("inverse", .bool t.inverse)]

end Triple

namespace Pattern

def ofJson? (json : Json) : Option Pattern :=
  match record? ["subject", "predicate", "object", "inverse"] json with
  | some [some s, some p, some o, inverse] => do
    return { subject := ← Term.ofJson? s, predicate := ← Term.ofJson? p, object := ← Term.ofJson? o
             inverse := ← Json.flag? inverse }
  | _ => none

def toJson (p : Pattern) : Json :=
  .object [("subject", p.subject.toJson), ("predicate", p.predicate.toJson), ("object", p.object.toJson),
    ("inverse", .bool p.inverse)]

end Pattern

namespace Bracket

def ofJson? (json : Json) : Option Bracket :=
  match choice? json with
  | some ("open", none) | some ("open", some .null) => some .opening
  | some ("close", none) | some ("close", some .null) => some .closing
  | _ => none

def toJson : Bracket → Json
  | .opening => .string "open"
  | .closing => .string "close"

end Bracket

namespace Event

def bare? : String → Option Event
  | "start_document" => some .startDocument
  | "end_document" => some .endDocument
  | "select" => some .select
  | "ask" => some .ask
  | "union" => some .union
  | _ => none

def names? : Json → Option (List String)
  | .array items => items.mapM Json.string?
  | _ => none

def carrying? (name : String) (content : Json) : Option Event :=
  match name with
  | "base" => content.string?.map .base
  | "comment" => content.string?.map .comment
  | "namespace" =>
    match record? ["prefix", "iri"] content with
    | some [some (.string label), some (.string iri)] => some (.declare label iri)
    | _ => none
  | "start_subject" => (Node.ofJson? content).map .startSubject
  | "end_subject" => (Node.ofJson? content).map .endSubject
  | "start_graph" => (Term.ofJson? content).map .startGraph
  | "end_graph" => (Term.ofJson? content).map .endGraph
  | "triple" => (Triple.ofJson? content).map .triple
  | "triple_pattern" => (Pattern.ofJson? content).map .pattern
  | "where" => (Bracket.ofJson? content).map .whereBlock
  | "optional" => (Bracket.ofJson? content).map .optional
  | "group" => (Bracket.ofJson? content).map .group
  | "order_by" => (names? content).map .orderBy
  | _ => none

def ofJson? (json : Json) : Option Event :=
  match choice? json with
  | some (name, none) | some (name, some .null) => bare? name
  | some (name, some content) => carrying? name content
  | none => none

def toJson : Event → Json
  | .startDocument => .string "start_document"
  | .endDocument => .string "end_document"
  | .select => .string "select"
  | .ask => .string "ask"
  | .union => .string "union"
  | .base iri => .object [("base", .string iri)]
  | .comment text => .object [("comment", .string text)]
  | .declare label iri => .object [("namespace", .object [("prefix", .string label), ("iri", .string iri)])]
  | .startSubject n => .object [("start_subject", n.toJson)]
  | .endSubject n => .object [("end_subject", n.toJson)]
  | .startGraph t => .object [("start_graph", t.toJson)]
  | .endGraph t => .object [("end_graph", t.toJson)]
  | .triple t => .object [("triple", t.toJson)]
  | .pattern p => .object [("triple_pattern", p.toJson)]
  | .whereBlock b => .object [("where", b.toJson)]
  | .optional b => .object [("optional", b.toJson)]
  | .group b => .object [("group", b.toJson)]
  | .orderBy names => .object [("order_by", .array (names.map .string))]

end Event

end TemplateQuery
