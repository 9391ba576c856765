import TemplateQuery.Prologue
import TemplateQuery.Term
import TemplateQuery.Token.Stream

/-! Constant terms in query text: IRIs, literals, numbers, truth values and blank nodes. -/

set_option autoImplicit false

namespace TemplateQuery

namespace Term

def readIri (p : Prologue) (ts : Tokens) : Except ReadError (String × Tokens) :=
  match ts.kind with
  | .iri text => .ok (p.resolve text, ts.advance)
  | .prefixed label localPart => (p.expand label localPart).map fun i => (i, ts.advance)
  | .nsLabel label => (p.expand label "").map fun i => (i, ts.advance)
  | found => ts.fail (.expected "IRI" found)

def readNumber? (sign : String) (ts : Tokens) : Option (Term × Tokens) :=
  match ts.kind with
  | .integer text => some (.typed (sign ++ text) Vocabulary.xsdInteger, ts.advance)
  | .decimal text => some (.typed (sign ++ text) Vocabulary.xsdDecimal, ts.advance)
  | .double text => some (.typed (sign ++ text) Vocabulary.xsdDouble, ts.advance)
  | _ => none

def readTag (p : Prologue) (text : String) (ts : Tokens) : Except ReadError (Term × Tokens) :=
  match ts.kind with
  | .langTag tag => .ok (.literal text (.lang tag), ts.advance)
  | .punct .doubleCaret => (readIri p ts.advance).map fun (datatype, rest) => (.typed text datatype, rest)
  | _ => .ok (.plain text, ts)

/-- A constant, or nothing when the next token starts none. A sign directly before a number belongs to
it. -/
def readConstant? (p : Prologue) (ts : Tokens) : Except ReadError (Option (Term × Tokens)) :=
  match ts.kind with
  | .punct .plus => .ok (readNumber? "+" ts.advance)
  | .punct .minus => .ok (readNumber? "-" ts.advance)
  | .integer _ | .decimal _ | .double _ => .ok (readNumber? "" ts)
  | .keyword .trueKw => .ok (some (.boolean true, ts.advance))
  | .keyword .falseKw => .ok (some (.boolean false, ts.advance))
  | .blank label => .ok (some (.blank label, ts.advance))
  | .string text => (readTag p text ts.advance).map some
  | .iri _ | .prefixed _ _ | .nsLabel _ => (readIri p ts).map fun (i, rest) => some (.iri i, rest)
  | _ => .ok none

end Term

end TemplateQuery
