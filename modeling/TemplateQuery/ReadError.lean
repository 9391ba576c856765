import TemplateQuery.Token

/-! Why a query text cannot be read, and where. -/

set_option autoImplicit false

namespace TemplateQuery

inductive LexFault where
  | unterminatedString
  | unterminatedPlaceholder
  | unexpected (c : Char)
  deriving DecidableEq, Repr

def LexFault.text : LexFault → String
  | unterminatedString => "unterminated string literal"
  | unterminatedPlaceholder => "unterminated expression placeholder"
  | unexpected c => "unexpected character '" ++ c.toString ++ "'"

structure LexError where
  fault : LexFault
  /-- Byte offset. -/
  position : Nat
  line : Nat
  column : Nat
  lineText : String
  deriving DecidableEq, Repr

def LexError.text (e : LexError) : String :=
  e.fault.text ++ " at line " ++ toString e.line ++ ", column " ++ toString e.column ++
    "\n  |\n" ++ toString e.line ++ " | " ++ e.lineText ++
    "\n  | " ++ String.ofList (List.replicate (e.column - 1) ' ') ++ "^"

inductive ParseFault where
  | expected (what : String) (found : Token.Kind)
  | unexpected (found : Token.Kind)
  | afterBindings (found : Token.Kind)
  | noProjection
  | nonEmptyGroup
  | unknownFunction (name : String)
  | unsupportedFunction (iri : String)
  | castArguments (iri : String)
  | outOfRange (clause : String)
  | rowWidth (cells names : Nat)
  deriving DecidableEq, Repr

def ParseFault.text : ParseFault → String
  | expected what found => "expected " ++ what ++ ", found " ++ found.display
  | unexpected found => "unexpected " ++ found.display
  | afterBindings found => "unexpected " ++ found.display ++ " after bindings"
  | noProjection => "expected projection"
  | nonEmptyGroup => "only an empty group pattern is supported"
  | unknownFunction name => "unknown function '" ++ name ++ "'"
  | unsupportedFunction iri => "unsupported function <" ++ iri ++ ">"
  | castArguments iri => "<" ++ iri ++ "> takes exactly one argument"
  | outOfRange clause => clause ++ " value out of range"
  | rowWidth cells names => "row has " ++ toString cells ++ " values for " ++ toString names ++ " variables"

inductive ReadError where
  | lex (error : LexError)
  | parse (position : Nat) (fault : ParseFault)
  /-- A name whose namespace label is not declared. -/
  | undeclared (label : String)
  deriving DecidableEq, Repr

def ReadError.message : ReadError → String
  | lex e => "lexer error at byte " ++ toString e.position ++ ": " ++ e.text
  | parse position fault => "parse error at byte " ++ toString position ++ ": " ++ fault.text
  | undeclared label => "undefined prefix '" ++ label ++ ":'"

end TemplateQuery
