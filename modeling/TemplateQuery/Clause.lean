import TemplateQuery.Naming

/-! The clauses open at one point of a query under construction, and what opening and closing one
writes. -/

set_option autoImplicit false

namespace TemplateQuery

inductive Clause where
  /-- Patterns without a bracket of their own. -/
  | block
  | optional
  /-- One alternative of a union. -/
  | group
  deriving DecidableEq, Repr, Inhabited

structure Frame where
  clause : Clause
  /-- The subject that the frame is about. -/
  subject : Option Term
  /-- Groups opened right inside are alternatives of one union. -/
  union : Bool
  deriving DecidableEq, Repr

inductive Shape where
  | select
  | ask
  /-- The patterns alone. -/
  | construct
  deriving DecidableEq, Repr, Inhabited

def Shape.name : Shape → String
  | .select => "select"
  | .ask => "ask"
  | .construct => "construct"

def Shape.ofName? (name : String) : Option Shape :=
  [Shape.select, .ask, .construct].find? (·.name == name)

structure Layout where
  shape : Shape := .select
  /-- Alternatives stand in a union; otherwise each is optional by itself. -/
  unionForm : Bool := true
  deriving DecidableEq, Repr, Inhabited

namespace Clause

def bracket? (layout : Layout) : Clause → Option (Bracket → Event)
  | .block => none
  | .optional => if layout.unionForm then some .optional else none
  | .group => some (if layout.unionForm then .group else .optional)

/-- Whether groups right inside the clause are alternatives, given whether they are outside it. -/
def holdsUnion (layout : Layout) (outside : Bool) : Clause → Bool
  | .block => outside
  | .optional => layout.unionForm || outside
  | .group => false

end Clause

structure Session where
  naming : Naming := {}
  /-- Open clauses, innermost first. -/
  stack : List Frame := []
  /-- Whether the next group is the first of its union. -/
  first : Bool := true
  /-- The last pattern written in the clauses open now. -/
  previous : Option Pattern := none
  /-- What the current event has written so far. -/
  output : List Event := []
  deriving DecidableEq, Repr, Inhabited

namespace Session

def emit (s : Session) (events : List Event) : Session := { s with output := s.output ++ events }

def inUnion (s : Session) : Bool := s.stack.head?.any (·.union)

def dangling (s : Session) : Bool := s.stack.head?.any fun f => f.clause == .group && f.subject.isNone

def inOptional (s : Session) : Bool := s.stack.head?.any (·.clause == .optional)

/-- The outermost block is there before anything else is written. -/
def anchor (s : Session) : Session :=
  if s.stack.isEmpty then { s with stack := [⟨.block, none, true⟩] } else s

/-- Whether a subject continues the previous pattern: the pattern leads to it, or is about it and
leads to something fixed. -/
def chained (s : Session) (subject : Term) : Bool :=
  s.previous.any fun p => subject.same p.partner || (subject.same p.about && !p.partner.isVar)

def enter (layout : Layout) (clause : Clause) (subject : Option Term) (s : Session) : Session :=
  -- A group after another one of the same union is set off from it.
  let separator := if clause == .group && s.inUnion && !s.first && layout.unionForm then [Event.union] else []
  let bracket := (clause.bracket? layout).toList.map (· .opening)
  let mark := subject.toList.map fun t => Event.startSubject { term := t }
  { s.emit (separator ++ bracket ++ mark) with
    stack := ⟨clause, subject, clause.holdsUnion layout s.inUnion⟩ :: s.stack
    first := s.first || clause != .block }

def leave (layout : Layout) (s : Session) : Session :=
  match s.stack with
  | [] => s
  | frame :: stack =>
    let mark := frame.subject.toList.map fun t => Event.endSubject { term := t }
    let bracket := (frame.clause.bracket? layout).toList.map (· .closing)
    { s.emit (mark ++ bracket) with
      stack
      previous := if frame.clause = .block then s.previous else none
      -- After a closed alternative the next one is not the first.
      first := s.first && !(stack.head?.any (·.union) && frame.clause == .group) }

def leaveTimes (layout : Layout) : Nat → Session → Session
  | 0, s => s
  | n + 1, s => leaveTimes layout n (s.leave layout)

def leaveAll (layout : Layout) (s : Session) : Session := s.leaveTimes layout s.stack.length

/-- Close everything up to the innermost clause that has a subject, and that clause. -/
def leaveSubject (layout : Layout) (s : Session) : Session :=
  s.leaveTimes layout ((s.stack.takeWhile (·.subject.isNone)).length + 1)

def write (p : Pattern) (s : Session) : Session := { s.emit [.pattern p] with previous := some p }

end Session

end TemplateQuery
