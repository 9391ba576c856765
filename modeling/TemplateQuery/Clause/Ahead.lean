import TemplateQuery.Event

/-! What the events after a point say about the subject that is open there. -/

set_option autoImplicit false

namespace TemplateQuery.Ahead

/-- The triples right in the open subject, `depth` subjects further out than the front of the list. -/
def ownTriples : Nat → List Event → List Triple
  | _, [] => []
  | depth, .startSubject _ :: rest => ownTriples (depth + 1) rest
  | 0, .endSubject _ :: _ => []
  | depth + 1, .endSubject _ :: rest => ownTriples depth rest
  | 0, .triple t :: rest => t :: ownTriples 0 rest
  | depth, _ :: rest => ownTriples depth rest

def encloses (nested : String) (t : Triple) : Bool :=
  t.object.term.isLiteral &&
    t.object.primaryOrigin.any fun origin => origin.toList.isPrefixOf nested.toList

/-- The triples of the open subject whose literal stands on an element around the first nested
subject, so that it belongs before it. `nested` is the place of that subject, once met. -/
def enclosing : Nat → Option String → List Event → List Triple
  | _, _, [] => []
  | _, _, .endDocument :: _ => []
  | depth, nested, .startSubject node :: rest =>
    enclosing (depth + 1) (nested <|> some (node.primaryOrigin.getD "")) rest
  | 0, _, .endSubject _ :: _ => []
  | depth + 1, nested, .endSubject _ :: rest => enclosing depth nested rest
  | 0, nested, .triple t :: rest =>
    if nested.any (encloses · t) then t :: enclosing 0 nested rest else enclosing 0 nested rest
  | depth, nested, _ :: rest => enclosing depth nested rest

def bases (events : List Event) : List Event :=
  (events.takeWhile fun e => !(e.isStart || e.isEnd)).filter fun
    | .base _ => true
    | _ => false

def declarations (events : List Event) : List Event :=
  (events.takeWhile (· != .endDocument)).filter fun
    | .declare _ _ => true
    | _ => false

end TemplateQuery.Ahead
