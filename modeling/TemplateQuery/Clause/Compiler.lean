import TemplateQuery.Clause
import TemplateQuery.Clause.Ahead

/-! From the events of a template to the clauses of a query. A triple that leads to something fixed is
required and joined at the front of its subject's block. A triple that leads to a variable is one
alternative of an optional union, so that every property binds by itself. -/

set_option autoImplicit false

namespace TemplateQuery

/-- A step of a compilation. The session goes on also after a violation. -/
abbrev Compile := ExceptT Violation (StateM Session)

namespace Compile

def resolve (node : Node) (triple? : Option Triple) : Compile Term := fun s =>
  let (outcome, naming) := s.naming.resolve node triple? true
  (outcome, { s with naming })

def isOptional (t : Triple) : Compile Bool := fun s => (s.naming.isOptional t, s)

def pattern (t : Triple) : Compile Pattern := do
  let subject ← resolve t.subject t
  let object ← resolve t.object t
  return { subject, predicate := t.predicate.term, object, inverse := t.inverse }

def require (layout : Layout) (t : Triple) : Compile Unit := do
  unless ← isOptional t do
    let p ← pattern t
    modify fun s => (if s.inUnion then s.enter layout .group none else s).write p

def alone : List Event → Compile Bool
  | [] => return true
  | .startSubject _ :: _ => return false
  | .endSubject _ :: _ => return true
  | .triple t :: rest => do if ← isOptional t then return false else alone rest
  | _ :: rest => alone rest

/-- A triple in its place, or out of it when there is nothing to look ahead at. -/
def statement (layout : Layout) (ahead? : Option (List Event)) (t : Triple) : Compile Unit := do
  if (← get).naming.isPromoted t then return
  let p ← pattern t
  let optional ← isOptional t
  modify Session.anchor
  modify fun s => if s.dangling && !s.first then s.leave layout else s
  -- A required one was written when its subject opened.
  if optional then
    modify fun s => if !s.inUnion && layout.unionForm then s.enter layout .optional none else s
    let s ← get
    let lone ← if s.first then ahead?.elim (pure false) alone else pure false
    modify fun s => if lone && s.inOptional then s else s.enter layout .group none
    modify fun s => { s.write p with first := false }

/-- A subject that does not continue the previous pattern ends the group left open by it; one that
does has its own properties joined as optional. -/
def startSubject (layout : Layout) (node : Node) (ahead : List Event) : Compile Unit := do
  let subject ← resolve node none
  modify Session.anchor
  modify fun s => if s.dangling && !s.chained subject then s.leave layout else s
  modify (·.enter layout .block (some subject))
  (Ahead.ownTriples 0 ahead).forM (require layout)
  let s ← get
  if !s.inUnion && s.chained subject then
    unless ← alone ahead do modify (·.enter layout .optional none)
  modify ({ · with previous := none })
  (Ahead.enclosing 0 none ahead).forM (statement layout none)

def header (layout : Layout) : List Event :=
  match layout.shape with
  | .select => [.select, .whereBlock .opening]
  | .ask => [.ask, .whereBlock .opening]
  | .construct => []

def startDocument (layout : Layout) (ahead : List Event) (s : Session) : Session :=
  s.emit (.startDocument :: Ahead.bases ahead ++ Ahead.declarations ahead ++ header layout)

def footer (layout : Layout) (origins : Origins) : List Event :=
  match layout.shape with
  | .construct => []
  | .select | .ask => .whereBlock .closing :: origins.notes.map .comment

def endDocument (layout : Layout) (s : Session) : Session :=
  let s := s.leaveAll layout
  s.emit (footer layout s.naming.origins ++ [.endDocument])

def step (layout : Layout) (ahead : List Event) : Event → Compile Unit
  | .startDocument => modify (startDocument layout ahead)
  | .endDocument => modify (endDocument layout)
  | .startSubject node => startSubject layout node ahead
  | .triple t => statement layout ahead t
  | .endSubject _ => modify (·.leaveSubject layout)
  | _ => return

end Compile

/-- What a compilation writes up to its end or its violation. -/
structure Compilation where
  /-- Each event of the query with the number of origins known by then. -/
  steps : List (Event × Nat)
  origins : Origins
  violation : Option Violation
  deriving DecidableEq, Repr

namespace Compilation

def ofSession (layout : Layout) (s : Session) : List Event → Compilation
  | [] => { steps := [], origins := s.naming.origins, violation := none }
  | e :: rest =>
    match Compile.step layout rest e { s with output := [] } with
    -- What the failing event has written is dropped.
    | (.error v, s) => { steps := [], origins := s.naming.origins, violation := some v }
    | (.ok (), s) =>
      let later := ofSession layout s rest
      { later with steps := s.output.map (·, s.naming.origins.size) ++ later.steps }

def ofEvents (layout : Layout) (events : List Event) : Compilation := ofSession layout {} events

def events (c : Compilation) : List Event := c.steps.map Prod.fst

end Compilation

def compile (layout : Layout) (events : List Event) : Except Violation (List Event) :=
  let c := Compilation.ofEvents layout events
  match c.violation with
  | some v => .error v
  | none => .ok c.events

end TemplateQuery
