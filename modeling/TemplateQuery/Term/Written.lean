import TemplateQuery.Number.Digits
import TemplateQuery.Term.Constant
import TemplateQuery.Token.Tokenize

/-! Terms as they are written in query text, and reading a single written term back. -/

set_option autoImplicit false

namespace TemplateQuery

namespace Term

/-- A character outside those that IRIs may hold is written by its code point. -/
def writtenIriChar (c : Char) : List Char :=
  if Token.isIriChar c then [c]
  else if c.toNat ≤ 0xFFFF then '\\' :: 'u' :: Text.hexTextUpper 4 c.toNat
  else '\\' :: 'U' :: Text.hexTextUpper 8 c.toNat

def writtenIri (iri : List Char) : List Char := '<' :: iri.flatMap writtenIriChar ++ ['>']

def quotedChar : Char → List Char
  | '\\' => ['\\', '\\']
  | '"' => ['\\', '"']
  | '\n' => ['\\', 'n']
  | '\r' => ['\\', 'r']
  | '\t' => ['\\', 't']
  | c => [c]

def quoted (text : List Char) : List Char := '"' :: text.flatMap quotedChar ++ ['"']

/-- An integer is written bare and in canonical form, when its text is one. -/
def writtenLiteral (lexical : List Char) : Tag → List Char
  | .simple => quoted lexical
  | .lang tag => quoted lexical ++ '@' :: tag.toList
  | .typed datatype =>
    match if datatype = Vocabulary.xsdInteger then Number.readInteger? lexical else none with
    | some n => Number.intText n
    | none => quoted lexical ++ '^' :: '^' :: writtenIri datatype.toList

def writtenChars : Term → List Char
  | .var name => '?' :: name.toList
  | .iri i => writtenIri i.toList
  | .curie _ _ i => writtenIri i.toList
  | .reference _ resolved => writtenIri resolved.toList
  | .blank label => '_' :: ':' :: label.toList
  | .literal lexical tag => writtenLiteral lexical.toList tag

def written (t : Term) : String := String.ofList t.writtenChars

def startsWritten (c : Char) : Bool := "<:_\".+-".toList.contains c || c.isDigit || Token.isLetter c

def ofWritten? (p : Prologue) (text : String) : Option Term :=
  match text.toList with
  | [] => none
  | c :: _ =>
    if !startsWritten c then none
    else
      match tokenize text with
      | .error _ => none
      | .ok tokens =>
        match readConstant? p tokens with
        | .ok (some (t, rest)) => if rest.kind = .eof then some t else none
        | _ => none

end Term

end TemplateQuery
