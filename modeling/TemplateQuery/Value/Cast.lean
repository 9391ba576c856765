import TemplateQuery.EvalError

/-! Conversion of values to the datatypes that have constructor functions. -/

set_option autoImplicit false

namespace TemplateQuery

open Vocabulary

namespace Value

def trimmed? : Value → Option (List Char)
  | .string text none => some (Text.trim text.toList)
  | _ => none

def boolNumber (b : Bool) : Nat := if b then 1 else 0

def toInteger? : Value → Option Int
  | .integer n => some n
  | .decimal d => some d.truncate
  | .double d => d.truncate?
  | .bool b => some (boolNumber b)
  | v => v.trimmed?.bind readInteger?

/-- Text with an exponent is not taken for a decimal. -/
def castDecimal? : Value → Option Decimal
  | .decimal d => some d
  | .integer n => some (.ofInt n)
  | .double d => d.toDecimal?
  | .bool b => some (.ofInt (boolNumber b))
  | v => v.trimmed?.bind fun text => if text.any Decimal.isExponentMark then none else Decimal.read? text

def castDouble? : Value → Option Double
  | .bool b => some (.ofInt (boolNumber b))
  | .string text none => Binary.read? (Text.trim text.toList)
  | v => v.toDouble?

def toBool? : Value → Option Bool
  | .bool b => some b
  | .integer n => some (n != 0)
  | .decimal d => some !d.isZero
  | .double d => some (!d.isZero && !d.isNaN)
  | v => v.trimmed?.bind readBool?

def cast? (datatype : String) (v : Value) : Option Value :=
  if datatype == xsdString then v.lexical?.map fun text => .string text none
  else if datatype == xsdInteger then v.toInteger?.map .integer
  else if datatype == xsdDecimal then v.castDecimal?.map .decimal
  else if datatype == xsdDouble then v.castDouble?.map .double
  else if datatype == xsdFloat then
    -- Kept as its canonical text.
    v.castDouble?.map fun d => .typed (String.ofList (d.convert : Single).text) xsdFloat
  else if datatype == xsdBoolean then v.toBool?.map .bool
  else none

/-- Only a value without a term has no outcome, and only as text. -/
def castTo (datatype : String) (v : Value) : Outcome Value :=
  match cast? datatype v with
  | some w => some (.ok w)
  | none => if datatype = xsdString ∧ v.toTerm = none then none else some (.error (.type (.cast v datatype)))

end Value

end TemplateQuery
