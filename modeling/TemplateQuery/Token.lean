/-! Tokens of query text: their kinds, spellings and spans. -/

set_option autoImplicit false

namespace TemplateQuery

inductive Keyword where
  | select | ask | whereKw | base | declare | asKw | distinct | reduced | limit | offset | values
  | bindings | undef | notKw | inKw | existsKw | aKw | trueKw | falseKw
  deriving DecidableEq, Repr

namespace Keyword

def text : Keyword → String
  | select => "SELECT"
  | ask => "ASK"
  | whereKw => "WHERE"
  | base => "BASE"
  | declare => "PREFIX"
  | asKw => "AS"
  | distinct => "DISTINCT"
  | reduced => "REDUCED"
  | limit => "LIMIT"
  | offset => "OFFSET"
  | values => "VALUES"
  | bindings => "BINDINGS"
  | undef => "UNDEF"
  | notKw => "NOT"
  | inKw => "IN"
  | existsKw => "EXISTS"
  | aKw => "a"
  | trueKw => "true"
  | falseKw => "false"

def caseless : List Keyword :=
  [select, ask, whereKw, base, declare, asKw, distinct, reduced, limit, offset, values, bindings,
    undef, notKw, inKw, existsKw, trueKw, falseKw]

def ofWord? (word : List Char) : Option Keyword :=
  -- The only one that depends on case.
  if word = ['a'] then some aKw
  else caseless.find? fun k => k.text.toList.map Char.toUpper == word.map Char.toUpper

end Keyword

inductive Punct where
  | lbrace | rbrace | lparen | rparen | lbracket | rbracket | dot | comma | semicolon | doubleCaret
  | or | and | eq | ne | lt | gt | le | ge | plus | minus | star | slash | bang | question | pipe | caret
  deriving DecidableEq, Repr

def Punct.text : Punct → String
  | lbrace => "\x7b"
  | rbrace => "\x7d"
  | lparen => "("
  | rparen => ")"
  | lbracket => "["
  | rbracket => "]"
  | dot => "."
  | comma => ","
  | semicolon => ";"
  | doubleCaret => "^^"
  | or => "||"
  | and => "&&"
  | eq => "="
  | ne => "!="
  | lt => "<"
  | gt => ">"
  | le => "<="
  | ge => ">="
  | plus => "+"
  | minus => "-"
  | star => "*"
  | slash => "/"
  | bang => "!"
  | question => "?"
  | pipe => "|"
  | caret => "^"

namespace Token

inductive Kind where
  /-- An IRI in angle brackets, escapes decoded. -/
  | iri (text : String)
  /-- A namespace label with its colon and nothing after it. -/
  | nsLabel (label : String)
  | prefixed (label localPart : String)
  | var (name : String)
  /-- An inline expression, without its marks. -/
  | placeholder (body : String)
  /-- A quoted string, escapes decoded. -/
  | string (text : String)
  | integer (text : String)
  | decimal (text : String)
  | double (text : String)
  | langTag (tag : String)
  | blank (label : String)
  | anon
  /-- A word that is no keyword. -/
  | name (text : String)
  | keyword (word : Keyword)
  | punct (mark : Punct)
  | eof
  deriving DecidableEq, Repr

def Kind.display : Kind → String
  | iri text => "<" ++ text ++ ">"
  | nsLabel label => label ++ ":"
  | prefixed label localPart => label ++ ":" ++ localPart
  | var n => "?" ++ n
  | placeholder body => "$\x7b" ++ body ++ "\x7d"
  | string text => "\"" ++ text ++ "\""
  | integer text | decimal text | double text | name text => text
  | langTag tag => "@" ++ tag
  | blank label => "_:" ++ label
  | anon => "[]"
  | keyword word => word.text
  | punct mark => mark.text
  | eof => "end of input"

end Token

structure Token where
  kind : Token.Kind
  start : Nat
  stop : Nat
  deriving DecidableEq, Repr

end TemplateQuery
