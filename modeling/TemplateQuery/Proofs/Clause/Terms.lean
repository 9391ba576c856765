import TemplateQuery.Proofs.Clause.Grammar
import TemplateQuery.Proofs.Clause.Ledger
import TemplateQuery.Proofs.Naming.Violations

/-! Where the terms of a query come from. A compilation makes up variables and nothing else, so what holds of every
variable and of the terms of a document holds of all terms that are written. The bases of a query stand at its start.
Main statement: `drawn_ofSession`. -/

set_option autoImplicit false

namespace TemplateQuery

def Event.terms : Event → List Term
  | .startSubject node | .endSubject node => [node.term]
  | .startGraph term | .endGraph term => [term]
  | .triple t => [t.subject.term, t.predicate.term, t.object.term]
  | .pattern p => [p.subject, p.predicate, p.object]
  | _ => []

def Event.isBase : Event → Bool
  | .base _ => true
  | _ => false

/-- Events after the start of a query: they declare no base, and what they speak of has the property. -/
structure Event.Drawn (P : Term → Prop) (e : Event) : Prop where
  unbased : e.isBase = false
  terms : ∀ t ∈ e.terms, P t

theorem Event.Drawn.plain {P : Term → Prop} {e : Event} (unbased : e.isBase = false) (termless : e.terms = []) :
    e.Drawn P :=
  ⟨unbased, by simp [termless]⟩

section Drawn

variable {P : Term → Prop} (fresh : ∀ name, P (.var name))

include fresh

/-! ## Terms of a pattern -/

theorem Naming.holds_of_resolve {n : Naming} {node : Node} {triple? : Option Triple} {record : Bool} {t : Term}
    (own : P node.term) (found : (n.resolve node triple? record).1 = .ok t) : P t := by
  rcases resolve_cases found with rfl | ⟨name, rfl, -⟩
  · exact own
  · exact fresh name

theorem Naming.drawn_pattern {n n' : Naming} {u : Triple} {p : Pattern} (own : ∀ t ∈ (Event.triple u).terms, P t)
    (found : n.pattern u = (.ok p, n')) : (Event.pattern p).Drawn P := by
  simp only [Event.terms, List.forall_mem_cons] at own
  obtain ⟨subject, mid, object, first, second, rfl⟩ := pattern_ok found
  have start := holds_of_resolve fresh own.1 (congrArg Prod.fst first)
  have finish := holds_of_resolve fresh own.2.2.1 (congrArg Prod.fst second)
  exact ⟨rfl, by simp [Event.terms, start, own.2.1, finish]⟩

end Drawn

/-! ## Terms of a session -/

/-- What is written draws on the property, and so does what the end of an open clause will write. -/
structure Session.Draws (P : Term → Prop) (s : Session) : Prop where
  frames : ∀ f ∈ s.stack, ∀ t ∈ f.subject, P t
  written : ∀ e ∈ s.output, e.Drawn P

namespace Session.Draws

variable {layout : Layout} {P : Term → Prop} {s s' : Session}

theorem renamed (draws : s.Draws P) (n : Naming) : Session.Draws P { s with naming := n } :=
  ⟨draws.frames, draws.written⟩

theorem ite {p : Bool} (yes : s.Draws P) (no : s'.Draws P) : (if p then s else s').Draws P := by
  split
  · exact yes
  · exact no

theorem write {p : Pattern} (draws : s.Draws P) (drawn : (Event.pattern p).Drawn P) : (s.write p).Draws P where
  frames := draws.frames
  written := by
    intro e member
    rcases List.mem_append.mp member with old | new
    · exact draws.written e old
    · rw [List.mem_singleton.mp new]
      exact drawn

theorem anchor (draws : s.Draws P) : s.anchor.Draws P := by
  unfold Session.anchor
  split
  · exact ⟨by simp, draws.written⟩
  · exact draws

theorem drawn_bracket (clause : Clause) (side : Bracket) :
    ∀ e ∈ (clause.bracket? layout).toList.map (· side), e.Drawn P := by
  intro e member
  obtain ⟨half, bracket, rfl⟩ := List.mem_map.mp member
  rw [Option.mem_toList] at bracket
  unfold Clause.bracket? at bracket
  split at bracket
  · cases bracket
  · split at bracket <;> cases bracket
    exact .plain rfl rfl
  · split at bracket <;> cases bracket <;> exact .plain rfl rfl

theorem enter (clause : Clause) {subject : Option Term} (draws : s.Draws P) (own : ∀ t ∈ subject, P t) :
    (s.enter layout clause subject).Draws P where
  frames := List.forall_mem_cons.mpr ⟨own, draws.frames⟩
  written := by
    intro e member
    rw [output_enter] at member
    simp only [List.mem_append] at member
    rcases member with old | (union | bracket) | mark
    · exact draws.written e old
    · unfold separator at union
      split at union
      · rw [List.mem_singleton.mp union]
        exact .plain rfl rfl
      · cases union
    · exact drawn_bracket clause .opening e bracket
    · obtain ⟨t, inside, rfl⟩ := List.mem_map.mp mark
      exact ⟨rfl, by simpa [Event.terms] using own t (Option.mem_toList.mp inside)⟩

theorem leave (draws : s.Draws P) : (s.leave layout).Draws P := by
  cases top : s.stack with
  | nil => simpa [Session.leave, top] using draws
  | cons f rest =>
    have frames := draws.frames
    rw [top, List.forall_mem_cons] at frames
    refine ⟨by rw [stack_leave top]; exact frames.2, fun e member => ?_⟩
    rw [output_leave top, List.mem_append, List.mem_append] at member
    rcases member with old | mark | bracket
    · exact draws.written e old
    · obtain ⟨t, inside, rfl⟩ := List.mem_map.mp mark
      exact ⟨rfl, by simpa [Event.terms] using frames.1 t (Option.mem_toList.mp inside)⟩
    · exact drawn_bracket f.clause .closing e bracket

theorem leaveTimes (count : Nat) (draws : s.Draws P) : (s.leaveTimes layout count).Draws P := by
  induction count generalizing s with
  | zero => exact draws
  | succ count ih => exact ih draws.leave

theorem settle (draws : s.Draws P) : (s.settle layout).Draws P := ite draws.anchor.leave draws.anchor

theorem ready (draws : s.Draws P) : (s.ready layout).Draws P :=
  ite (draws.settle.enter .optional (by simp)) draws.settle

theorem join {p : Pattern} (draws : s.Draws P) (drawn : (Event.pattern p).Drawn P) : (s.join layout p).Draws P :=
  write (ite (draws.enter .group (by simp)) draws) drawn

theorem place {p : Pattern} (lone : Bool) (draws : s.Draws P) (drawn : (Event.pattern p).Drawn P) :
    (s.place layout lone p).Draws P := by
  have room : (if lone && s.inOptional then s else s.enter layout .group none).Draws P :=
    ite draws (draws.enter .group (by simp))
  exact ⟨(room.write drawn).frames, (room.write drawn).written⟩

theorem openSubject {subject : Term} (draws : s.Draws P) (own : P subject) :
    (s.openSubject layout subject).Draws P :=
  enter .block (ite draws.anchor.leave draws.anchor) (by simpa using own)

theorem endDocument (draws : s.Draws P) : (Compile.endDocument layout s).Draws P where
  frames := (draws.leaveTimes s.stack.length).frames
  written := by
    intro e member
    rcases List.mem_append.mp member with old | new
    · exact (draws.leaveTimes s.stack.length).written e old
    rcases List.mem_append.mp new with foot | last
    · rcases Compile.mem_footer foot with rfl | ⟨text, rfl⟩ <;> exact .plain rfl rfl
    · rw [List.mem_singleton.mp last]
      exact .plain rfl rfl

/-! ## Terms of a compilation -/

section Compile

variable (fresh : ∀ name, P (.var name))

include fresh

theorem require {u : Triple} (own : ∀ t ∈ (Event.triple u).terms, P t) (draws : s.Draws P)
    (ran : Compile.require layout u s = (.ok (), s')) : s'.Draws P := by
  rcases Compile.require_ok ran with ⟨-, rfl⟩ | ⟨p, n, -, found, rfl⟩
  · exact draws
  · exact (draws.renamed n).join (Naming.drawn_pattern fresh own found)

theorem statement {ahead? : Option (List Event)} {u : Triple} (own : ∀ t ∈ (Event.triple u).terms, P t)
    (draws : s.Draws P) (ran : Compile.statement layout ahead? u s = (.ok (), s')) : s'.Draws P := by
  rcases Compile.statement_ok ran with ⟨-, rfl⟩ | ⟨p, n, -, found, ⟨-, rfl⟩ | ⟨lone, -, -, rfl⟩⟩
  · exact draws
  · exact (draws.renamed n).settle
  · exact (draws.renamed n).ready.place lone (Naming.drawn_pattern fresh own found)

theorem startSubject {node : Node} {ahead : List Event} (own : P node.term)
    (later : ∀ e ∈ ahead, ∀ t ∈ e.terms, P t) (draws : s.Draws P)
    (ran : Compile.startSubject layout node ahead s = (.ok (), s')) : s'.Draws P := by
  obtain ⟨subject, n, middle, lone, found, first, -, brought⟩ := Compile.startSubject_ok ran
  have subjectDrawn := Naming.holds_of_resolve fresh own (congrArg Prod.fst found)
  -- Triples of this subject are written at once, wherever they stand: what is ahead counts as well.
  have joined : middle.Draws P := by
    apply Compile.forM_keeps _ ((draws.renamed n).openSubject subjectDrawn) first
    intro u member _ _ draws
    exact draws.require fresh (later _ (Ahead.triple_of_mem_ownTriples member))
  have room : (if lone then middle else middle.enter layout .optional none).Draws P :=
    ite joined (joined.enter .optional (by simp))
  apply Compile.forM_keeps _ _ brought
  · intro u member _ _ draws
    exact draws.statement fresh (later _ (Ahead.triple_of_mem_enclosing member))
  · exact ⟨room.frames, room.written⟩

theorem step {e : Event} {ahead : List Event} (later : e ≠ .startDocument)
    (given : ∀ d ∈ e :: ahead, ∀ t ∈ d.terms, P t) (draws : s.Draws P)
    (ran : Compile.step layout ahead e s = (.ok (), s')) : s'.Draws P := by
  rw [List.forall_mem_cons] at given
  cases e with
  | startDocument => exact absurd rfl later
  | endDocument =>
    cases ran
    exact endDocument draws
  | startSubject node => exact startSubject fresh (given.1 _ List.mem_cons_self) given.2 draws ran
  | triple u => exact statement fresh given.1 draws ran
  | endSubject node => cases ran; exact draws.leaveTimes _
  | base _ | declare _ _ | startGraph _ | endGraph _ | pattern _ | comment _ | select | ask | whereBlock _ | optional _
  | group _ | union | orderBy _ =>
    cases ran
    exact draws

end Compile

end Session.Draws

theorem Compile.terms_opening (layout : Layout) (ahead : List Event) :
    ∀ e ∈ Event.startDocument :: Ahead.bases ahead ++ Ahead.declarations ahead ++ header layout, e.terms = [] := by
  intro e member
  simp only [List.cons_append, List.mem_cons, List.mem_append] at member
  rcases member with rfl | (base | declaration) | opening
  · rfl
  · obtain ⟨iri, rfl⟩ := Ahead.base_of_mem_bases base
    rfl
  · obtain ⟨label, iri, rfl⟩ := Ahead.declare_of_mem_declarations declaration
    rfl
  · rcases mem_header opening with rfl | rfl | rfl <;> rfl

theorem drawn_ofSession {layout : Layout} {P : Term → Prop} (fresh : ∀ name, P (.var name)) {events : List Event}
    (later : ∀ e ∈ events, e ≠ .startDocument) (given : ∀ e ∈ events, ∀ t ∈ e.terms, P t) {s : Session}
    (frames : ∀ f ∈ s.stack, ∀ t ∈ f.subject, P t) :
    ∀ e ∈ (Compilation.ofSession layout s events).events, e.Drawn P := by
  -- By induction on the events, up to the end of them or the first violation.
  induction events generalizing s with
  | nil => simp [Compilation.ofSession, Compilation.events]
  | cons e rest ih =>
    rw [List.forall_mem_cons] at later
    have start : Session.Draws P { s with output := [] } := ⟨frames, by simp⟩
    cases ran : Compile.step layout rest e { s with output := [] } with
    | mk outcome s' =>
      cases outcome with
      | error v =>
        -- The event that fails writes nothing, and nothing comes after it.
        simp [Compilation.ofSession, Compilation.events, ran]
      | ok _ =>
        have draws := start.step fresh later.1 given ran
        rw [Compilation.events_ofSession_cons ran, List.forall_mem_append]
        exact ⟨draws.written, ih later.2 (List.forall_mem_cons.mp given).2 draws.frames⟩

end TemplateQuery
