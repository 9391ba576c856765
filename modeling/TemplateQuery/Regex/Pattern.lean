import TemplateQuery.Regex.Property

/-! Patterns over text: sets of characters, positions, repetition, choice and groups. -/

set_option autoImplicit false

namespace TemplateQuery.Regex

open Text

inductive Look where
  | textStart
  | textEnd
  | lineStart
  | lineEnd
  /-- The ends of lines that carriage returns may also end. -/
  | returnLineStart
  | returnLineEnd
  | boundary
  | notBoundary
  | wordStart
  | wordEnd
  | wordStartHalf
  | wordEndHalf
  deriving DecidableEq, Repr

/-- Whether the condition holds between two characters; an end of the text has none. `isWord` tells word
characters. -/
def Look.holds (l : Look) (isWord : Char → Bool) (before after : Option Char) : Bool :=
  let wordBefore := before.any isWord
  let wordAfter := after.any isWord
  match l with
  | .textStart => before.isNone
  | .textEnd => after.isNone
  | .lineStart => before.all (· == '\n')
  | .lineEnd => after.all (· == '\n')
  | .returnLineStart => before.all fun c => c == '\n' || (c == '\r' && after != some '\n')
  | .returnLineEnd => after.all fun c => c == '\r' || (c == '\n' && before != some '\r')
  | .boundary => wordBefore != wordAfter
  | .notBoundary => wordBefore == wordAfter
  | .wordStart => !wordBefore && wordAfter
  | .wordEnd => wordBefore && !wordAfter
  | .wordStartHalf => !wordBefore
  | .wordEndHalf => !wordAfter

inductive Pattern where
  | empty
  /-- One character of a set. -/
  | chars (set : CodeRanges)
  /-- A position, with the class of word characters that it goes by. -/
  | look (l : Look) (isWord : Char → Bool)
  /-- Between `least` and `most` times, as often as possible when greedy and as rarely when not. -/
  | repeated (least : Nat) (most : Option Nat) (greedy : Bool) (body : Pattern)
  /-- A group whose text is kept under a number. -/
  | group (index : Nat) (body : Pattern)
  | seq (first second : Pattern)
  /-- A choice in which the first alternative is preferred. -/
  | choice (first second : Pattern)

namespace Pattern

def needsChar : Pattern → Bool
  | empty => false
  | chars _ => true
  | look _ _ => false
  | repeated least _ _ body => 0 < least && body.needsChar
  | group _ body => body.needsChar
  | seq first second => first.needsChar || second.needsChar
  | choice first second => first.needsChar && second.needsChar

def takesNone : Pattern → Bool
  | empty => true
  | chars _ => false
  | look _ _ => true
  | repeated _ most _ body => most == some 0 || body.takesNone
  | group _ body => body.takesNone
  | seq first second => first.takesNone && second.takesNone
  | choice first second => first.takesNone && second.takesNone

def times (least : Nat) (most : Option Nat) (greedy : Bool) (body : Pattern) : Pattern :=
  -- What matches only positions is not worth a second time.
  if body.takesNone then repeated (min least 1) (some (min (most.getD 1) 1)) greedy body
  else repeated least most greedy body

end Pattern

end TemplateQuery.Regex
