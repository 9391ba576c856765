import TemplateQuery.Proofs.Clause.Moves

/-! Brackets and subjects of a query, jointly nested. A query under construction has the brackets of its
stack open, and every move keeps it so. -/

set_option autoImplicit false

namespace TemplateQuery

namespace Event

def isBracket : Event → Bool
  | startSubject _ | endSubject _ | whereBlock _ | optional _ | group _ => true
  | _ => false

/-- Which event closes what another one opened. Subjects go by their terms. -/
inductive Closes : Event → Event → Prop where
  | whereBlock : Closes (.whereBlock .opening) (.whereBlock .closing)
  | optional : Closes (.optional .opening) (.optional .closing)
  | group : Closes (.group .opening) (.group .closing)
  | subject {first last : Node} (same : first.term = last.term) : Closes (.startSubject first) (.endSubject last)

end Event

open Event (Closes)

/-- Every bracket is closed by one of its own kind, and inner ones before outer ones. -/
inductive Nested : List Event → Prop where
  | nil : Nested []
  | plain {e : Event} {rest : List Event} (plain : e.isBracket = false) : Nested rest → Nested (e :: rest)
  | pair {first last : Event} {inner rest : List Event} (closes : Closes first last) :
      Nested inner → Nested rest → Nested (first :: inner ++ last :: rest)

theorem Nested.append {front back : List Event} (nested : Nested front) (more : Nested back) :
    Nested (front ++ back) := by
  induction nested with
  | nil => exact more
  | plain plain _ ih => exact .plain plain ih
  | pair closes inner _ _ ih =>
    rw [List.append_assoc, List.cons_append]
    exact .pair closes inner ih

theorem nested_of_plain {events : List Event} (plain : ∀ e ∈ events, e.isBracket = false) : Nested events := by
  induction events with
  | nil => exact .nil
  | cons e events ih => exact .plain (plain e (by simp)) (ih fun d member => plain d (by simp [member]))

/-- A text in which `pending` is open, innermost first, and all else nested. -/
inductive Unclosed : List Event → List Event → Prop where
  | none {text : List Event} : Nested text → Unclosed [] text
  | more {pending text inner : List Event} {first : Event} :
      Unclosed pending text → Nested inner → Unclosed (first :: pending) (text ++ first :: inner)

namespace Unclosed

variable {pending text : List Event}

theorem append {inner : List Event} (unclosed : Unclosed pending text) (nested : Nested inner) :
    Unclosed pending (text ++ inner) := by
  cases unclosed with
  | none before => exact .none (before.append nested)
  | more outside before =>
    rw [List.append_assoc, List.cons_append]
    exact .more outside (before.append nested)

theorem plain {e : Event} (unclosed : Unclosed pending text) (plain : e.isBracket = false) :
    Unclosed pending (text ++ [e]) := unclosed.append (.plain plain .nil)

theorem push (first : Event) (unclosed : Unclosed pending text) : Unclosed (first :: pending) (text ++ [first]) :=
  .more unclosed .nil

theorem pop {first last : Event} (unclosed : Unclosed (first :: pending) text) (closes : Closes first last) :
    Unclosed pending (text ++ [last]) := by
  cases unclosed with
  | @more _ outer inner _ outside nested =>
    have closed : Nested (first :: inner ++ [last]) := .pair closes nested .nil
    simpa using outside.append closed

end Unclosed

def Frame.pending (layout : Layout) (f : Frame) : List Event :=
  (f.subject.toList.map fun t => Event.startSubject { term := t }) ++
    (f.clause.bracket? layout).toList.map (· .opening)

def pendingOf (layout : Layout) (stack : List Frame) : List Event := stack.flatMap (Frame.pending layout)

theorem Clause.closes_of_bracket? {layout : Layout} {clause : Clause} {half : Bracket → Event}
    (bracket : clause.bracket? layout = some half) : Closes (half .opening) (half .closing) := by
  cases clause with
  | block => cases bracket
  | optional =>
    simp only [Clause.bracket?] at bracket
    split at bracket <;> cases bracket
    exact .optional
  | group =>
    simp only [Clause.bracket?] at bracket
    split at bracket <;> cases bracket
    · exact .group
    · exact .optional

namespace Session

variable {layout : Layout} {s s' : Session} {before : List Event}

theorem unclosed_enter (clause : Clause) (subject : Option Term)
    (unclosed : Unclosed (pendingOf layout s.stack) (before ++ s.output)) :
    Unclosed (pendingOf layout (s.enter layout clause subject).stack)
      (before ++ (s.enter layout clause subject).output) := by
  have separated : Unclosed (pendingOf layout s.stack) (before ++ s.output ++ s.separator layout clause) := by
    unfold separator
    split
    · exact unclosed.plain rfl
    · simpa using unclosed
  have bracketed : Unclosed ((clause.bracket? layout).toList.map (· .opening) ++ pendingOf layout s.stack)
      (before ++ s.output ++ s.separator layout clause ++ (clause.bracket? layout).toList.map (· .opening)) := by
    cases clause.bracket? layout with
    | none => simpa using separated
    | some half => exact separated.push (half .opening)
  rw [output_enter]
  cases subject with
  | none => simpa [pendingOf, enter, Frame.pending] using bracketed
  | some t => simpa [pendingOf, enter, Frame.pending] using bracketed.push (.startSubject { term := t })

theorem unclosed_leave (unclosed : Unclosed (pendingOf layout s.stack) (before ++ s.output)) :
    Unclosed (pendingOf layout (s.leave layout).stack) (before ++ (s.leave layout).output) := by
  cases top : s.stack with
  | nil => simpa [leave, top] using unclosed
  | cons f rest =>
    rw [top] at unclosed
    have marked : Unclosed ((f.clause.bracket? layout).toList.map (· .opening) ++ pendingOf layout rest)
        (before ++ s.output ++ f.subject.toList.map fun t => Event.endSubject { term := t }) := by
      cases subject : f.subject with
      | none => simpa [pendingOf, Frame.pending, subject] using unclosed
      | some t =>
        have pending : Unclosed (.startSubject { term := t } :: ((f.clause.bracket? layout).toList.map (· .opening) ++
            pendingOf layout rest)) (before ++ s.output) := by
          simpa [pendingOf, Frame.pending, subject] using unclosed
        exact pending.pop (.subject rfl)
    rw [stack_leave top, output_leave top, ← List.append_assoc, ← List.append_assoc]
    cases bracket : f.clause.bracket? layout with
    | none => simpa [bracket] using marked
    | some half =>
      rw [bracket] at marked
      exact Unclosed.pop marked (Clause.closes_of_bracket? bracket)

end Session

end TemplateQuery
