import TemplateQuery.DateTime.Reader
import TemplateQuery.Number.Double
import TemplateQuery.Term

/-! Values of expressions. Literals of the numeric, boolean and dateTime datatypes have native values; any
other literal, and one whose text is not in its datatype's lexical space, keeps its text. -/

set_option autoImplicit false

namespace TemplateQuery

open Number Vocabulary

inductive Value where
  | iri (iri : String)
  | blank (label : String)
  | string (text : String) (lang : Option String)
  | bool (b : Bool)
  | integer (n : Int)
  | decimal (d : Decimal)
  | double (d : Double)
  | dateTime (t : DateTime)
  /-- A literal that is not interpreted. -/
  | typed (lexical datatype : String)
  deriving DecidableEq

namespace Value

def plain (text : List Char) : Value := .string (String.ofList text) none

/-- An integer in text that is already trimmed; a plus sign in front may be followed by another sign. -/
def readInteger? (text : List Char) : Option Int :=
  match text with
  | '+' :: rest => Number.readInteger? rest
  | _ => Number.readInteger? text

def readBool? (text : List Char) : Option Bool :=
  match String.ofList text with
  | "true" | "1" => some true
  | "false" | "0" => some false
  | _ => none

def ofTyped? (lexical datatype : String) : Option Value :=
  let text := Text.trim lexical.toList
  if datatype == xsdString then some (.string lexical none)
  else if datatype == xsdInteger then (readInteger? text).map integer
  else if datatype == xsdDecimal then (Decimal.read? text).map decimal
  else if datatype == xsdDouble || datatype == xsdFloat then (Binary.read? text).map double
  else if datatype == xsdBoolean then (readBool? text).map bool
  else if datatype == xsdDateTime then (DateTime.read? text).map dateTime
  else none

def ofTyped (lexical datatype : String) : Value := (ofTyped? lexical datatype).getD (.typed lexical datatype)

def ofTerm? : Term → Option Value
  | .var _ => none
  | .iri i => some (.iri i)
  | .curie _ _ i => some (.iri i)
  | .reference _ resolved => some (.iri resolved)
  | .blank label => some (.blank label)
  | .literal lexical .simple => some (.string lexical none)
  | .literal lexical (.lang tag) => some (.string lexical (some tag))
  | .literal lexical (.typed datatype) => some (ofTyped lexical datatype)

/-- The term that denotes a value, a literal in its canonical form. -/
def toTerm : Value → Option Term
  | .iri i => some (.iri i)
  | .blank label => some (.blank label)
  | .string text none => some (.literal text .simple)
  | .string text (some tag) => some (.literal text (.lang tag))
  | .bool b => some (.boolean b)
  | .integer n => some (.typed (String.ofList (intText n)) xsdInteger)
  -- Only a decimal can be without a term.
  | .decimal d => d.text.map fun text => .typed (String.ofList text) xsdDecimal
  | .double d => some (.typed (String.ofList d.text) xsdDouble)
  | .dateTime t => some (.typed (String.ofList t.text) xsdDateTime)
  | .typed lexical datatype => some (.typed lexical datatype)

def datatype? : Value → Option String
  | .iri _ | .blank _ => none
  | .string _ none => some xsdString
  | .string _ (some _) => some langString
  | .bool _ => some xsdBoolean
  | .integer _ => some xsdInteger
  | .decimal _ => some xsdDecimal
  | .double _ => some xsdDouble
  | .dateTime _ => some xsdDateTime
  | .typed _ datatype => some datatype

def isLiteral : Value → Bool
  | .iri _ | .blank _ => false
  | _ => true

def isNumeric : Value → Bool
  | .integer _ | .decimal _ | .double _ => true
  | _ => false

def lexical? (v : Value) : Option String :=
  match v with
  | .blank _ => none
  | .iri i => some i
  | v =>
    match v.toTerm with
    | some (.literal lexical _) => some lexical
    | _ => none

def text? : Value → Option String
  | .string text _ => some text
  | _ => none

def lang? : Value → Option String
  | .string _ lang => some (lang.getD "")
  | _ => none

/-- The truth of a value, when it has one: numbers other than zero and texts that are not empty are true,
and so is no literal of a numeric or boolean datatype outside its lexical space. -/
def truth? : Value → Option Bool
  | .bool b => some b
  | .string text _ => some !text.isEmpty
  | .integer n => some (n != 0)
  | .decimal d => some !d.isZero
  | .double d => some (!d.isZero && !d.isNaN)
  | .typed _ datatype => if isNumericDatatype datatype || datatype == xsdBoolean then some false else none
  | _ => none

def toDouble? : Value → Option Double
  | .integer n => some (.ofInt n)
  | .decimal d => some (.ofDecimal d)
  | .double d => some d
  | _ => none

def toDecimal? : Value → Option Decimal
  | .integer n => some (.ofInt n)
  | .decimal d => some d
  | _ => none

end Value

end TemplateQuery
