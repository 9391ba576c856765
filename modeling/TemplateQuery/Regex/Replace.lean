import TemplateQuery.Number.Digits
import TemplateQuery.Regex.Match

/-! Replacement of matches. In the replacement a dollar sign and the number or name of a group stand for
the text of the group, and two dollar signs for one. -/

set_option autoImplicit false

namespace TemplateQuery.Regex

open Text

inductive Piece where
  | char (c : Char)
  | group (name : List Char)

def isReferenceChar (c : Char) : Bool := c.isAlphanum || c == '_'

/-- A reference after its dollar sign: a name in braces, or the longest run of letters, digits and
underscores. -/
def reference? (cs : List Char) : Option (List Char × List Char) :=
  match cs with
  | '\x7b' :: rest => splitAt? (· == '\x7d') rest
  | _ =>
    let name := cs.takeWhile isReferenceChar
    if name.isEmpty then none else some (name, cs.drop name.length)

def piecesFrom : Nat → List Char → List Piece
  | _, [] => []
  | 0, _ => []
  | fuel + 1, '$' :: '$' :: cs => .char '$' :: piecesFrom fuel cs
  | fuel + 1, '$' :: cs =>
    match reference? cs with
    | some (name, rest) => .group name :: piecesFrom fuel rest
    | none => .char '$' :: piecesFrom fuel cs
  | fuel + 1, c :: cs => .char c :: piecesFrom fuel cs

def pieces (replacement : List Char) : List Piece := piecesFrom replacement.length replacement

namespace Matcher

def groupNumber? (name : List Char) : Option Nat :=
  let digits := (dropFront? ['+'] name).getD name
  if digits.all Char.isDigit && !digits.isEmpty then some (Number.ofDigits digits) else none

def groupIndex? (m : Matcher) (name : List Char) : Option Nat :=
  (groupNumber? name).or (m.names.lookup (String.ofList name))

def groupText (m : Matcher) (text : List Char) (found : Found) (name : List Char) : List Char :=
  match (m.groupIndex? name).bind found.span? with
  | some (first, stop) => (text.drop first).take (stop - first)
  | none => []

def expand (m : Matcher) (text : List Char) (found : Found) (replacement : List Piece) : List Char :=
  replacement.flatMap fun
    | .char c => [c]
    | .group name => m.groupText text found name

def replaceAll (m : Matcher) (replacement text : List Char) : List Char :=
  let parts := pieces replacement
  let rec go (done : Nat) : List (Nat × Nat × Found) → List Char
    | [] => text.drop done
    | (first, stop, found) :: rest => (text.drop done).take (first - done) ++ m.expand text found parts ++ go stop rest
  go 0 (m.findAll text)

end Matcher

end TemplateQuery.Regex
