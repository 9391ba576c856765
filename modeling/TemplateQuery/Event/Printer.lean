import TemplateQuery.Event
import TemplateQuery.Term.Written

/-! The text of a query from its clauses, one line each, with one tab for every open bracket. -/

set_option autoImplicit false

namespace TemplateQuery

/-- The text of a term in a pattern, with compact and relative IRIs as they were written. -/
def Term.patternChars : Term → List Char
  | .curie label localPart _ => label.toList ++ ':' :: localPart.toList
  | .reference relative _ => Term.writtenIri relative.toList
  | t => t.writtenChars

namespace Event

inductive Line where
  | nothing
  | plain (text : List Char)
  /-- The lines after it are one further in. -/
  | opening (text : List Char)
  | closing
  deriving DecidableEq, Repr

def Line.ofBracket (text : String) : Bracket → Line
  | .opening => .opening text.toList
  | .closing => .closing

def statementLine (subject predicate object : Term) : Line :=
  .plain (subject.patternChars ++ ' ' :: predicate.patternChars ++ ' ' :: object.patternChars ++ [' ', '.'])

def line : Event → Line
  | .startDocument | .endDocument | .startSubject _ | .endSubject _ => .nothing
  | .base iri => .plain ("BASE ".toList ++ Term.writtenIri iri.toList)
  | .declare label iri => .plain ("PREFIX ".toList ++ label.toList ++ ": ".toList ++ Term.writtenIri iri.toList)
  | .select => .plain "SELECT REDUCED *".toList
  | .ask => .plain "ASK".toList
  | .whereBlock half => .ofBracket "WHERE \x7b" half
  | .optional half => .ofBracket "OPTIONAL \x7b" half
  | .group half => .ofBracket "\x7b" half
  | .startGraph term => .opening ("GRAPH ".toList ++ term.patternChars ++ " \x7b".toList)
  | .endGraph _ => .closing
  | .union => .plain "UNION".toList
  | .pattern p => statementLine p.subject p.predicate p.object
  | .triple t => statementLine t.subject.term t.predicate.term t.object.term
  | .comment text => .plain ('#' :: text.toList)
  | .orderBy names => .plain ("ORDER BY".toList ++ names.flatMap fun name => ' ' :: '?' :: name.toList)

def indented (depth : Nat) (text : List Char) : List Char := List.replicate depth '\t' ++ text ++ ['\n']

/-- The text of the events from a place inside `depth` brackets. -/
def printFrom : Nat → List Event → List Char
  | _, [] => []
  | depth, e :: rest =>
    match e.line with
    | .nothing => printFrom depth rest
    | .plain text => indented depth text ++ printFrom depth rest
    | .opening text => indented depth text ++ printFrom (depth + 1) rest
    | .closing => indented (depth - 1) ['\x7d'] ++ printFrom (depth - 1) rest

def queryText (events : List Event) : String := String.ofList (printFrom 0 events)

end Event

end TemplateQuery
