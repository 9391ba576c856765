import TemplateQuery.Term
import TemplateQuery.Text.Case
import TemplateQuery.Text.Search
import TemplateQuery.Token.Chars

/-! Labels of predicates: the stem of the names of the variables at their ends. -/

set_option autoImplicit false

namespace TemplateQuery.Label

open Text

/-- A capital is a character that upper case leaves alone, so digits and signs count. -/
def isCapital (c : Char) : Bool := upperChar c == [c]

/-- The text after `word`, its first character in lower case, when that character is a capital. -/
def dropWord (word label : List Char) : List Char :=
  match dropFront? word label with
  | some (c :: rest) => if isCapital c then lowerChar [] c [] ++ rest else label
  | _ => label

def varChar (c : Char) : Char := if Token.isVarChar c then c else '_'

def invert (label : List Char) : List Char :=
  if label.length > 2 && "Of".toList.isSuffixOf label then label.take (label.length - 2)
  else label ++ "Of".toList

/-- The stem of a predicate: its local name without a leading `has` or `in`. -/
def stem (predicate : Term) : List Char :=
  (dropWord "in".toList (dropWord "has".toList (Iri.localName predicate.key).toList)).map varChar

def ofPredicate (predicate : Term) (inverse : Bool) : String :=
  String.ofList (if inverse then invert (stem predicate) else stem predicate)

end TemplateQuery.Label
