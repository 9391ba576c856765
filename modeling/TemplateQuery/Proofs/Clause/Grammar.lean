import TemplateQuery.Proofs.Clause.Alternatives

/-! The clauses that a template compiles to are a word of one grammar, whatever the template says between
its start and its end. Main statement: `compile_clauseWord`. -/

set_option autoImplicit false

namespace TemplateQuery

def Shape.around (body notes : List Event) : Shape → List Event
  | .select => .select :: .whereBlock .opening :: body ++ .whereBlock .closing :: notes
  | .ask => .ask :: .whereBlock .opening :: body ++ .whereBlock .closing :: notes
  | .construct => body

structure ClauseWord (layout : Layout) (out : List Event) : Prop where
  framed : ∃ bases declarations body notes,
    out = .startDocument :: bases ++ declarations ++ layout.shape.around body notes ++ [.endDocument] ∧
    (∀ e ∈ bases, ∃ iri, e = .base iri) ∧ (∀ e ∈ declarations, ∃ label iri, e = .declare label iri) ∧
    (∀ e ∈ body, e.isClause layout.unionForm = true) ∧ ∀ e ∈ notes, ∃ text, e = .comment text
  nested : Nested out
  unions : layout.unionForm = true →
    (∀ front back, visible out = front ++ .union :: back →
      front.getLast? = some (.group .closing) ∧ back.head? = some (.group .opening)) ∧
    ∀ front back, visible out ≠ front ++ .group .closing :: .group .opening :: back
  unionless : layout.unionForm = false → ∀ e ∈ out, e ≠ .union ∧ ∀ half, e ≠ .group half

variable {layout : Layout} {s s' : Session} {before : List Event}

/-- A text written so far, seen together with the events still to come. -/
def InProgress (layout : Layout) (before : List Event) (s : Session) (ahead : List Event) : Prop :=
  Standing layout before s ∨ Lone layout before s ∧ Quiet ahead

theorem inProgress_start (layout : Layout) (ahead : List Event) : InProgress layout [] {} ahead := by
  refine .inl ⟨⟨trivial, .none .nil, by simp, fun _ => .nil⟩, fun _ _ => ?_⟩
  simp [visible]

theorem Lone.naming {n : Naming} (lone : Lone layout before s) : Lone layout before { s with naming := n } :=
  ⟨⟨lone.layered, lone.unclosed, lone.clauses, lone.separated⟩, lone.inOptional⟩

theorem Lone.settle (lone : Lone layout before s) : s.settle layout = s := by
  have inOptional := lone.inOptional
  unfold Session.inOptional at inOptional
  cases top : s.stack with
  | nil => simp [top] at inOptional
  | cons f rest =>
    have clause : f.clause = .optional := by simpa [top] using inOptional
    simp [Session.settle, Session.anchor, Session.dangling, top, clause]

theorem Lone.leaveTimes (lone : Lone layout before s) (count : Nat) :
    Standing layout before (s.leaveTimes layout (count + 1)) :=
  Moves.standing (Session.moves_leaveTimes count (s.leave layout)) lone.leave

theorem Lone.statement {ahead : List Event} {t : Triple} (lone : Lone layout before s) (required : t.isOpen = false)
    (ran : Compile.statement layout (some ahead) t s = (.ok (), s')) : Lone layout before s' := by
  rcases Compile.statement_ok ran with ⟨-, rfl⟩ | ⟨p, n, -, -, ⟨-, rfl⟩ | ⟨_, optional, -⟩⟩
  · exact lone
  · rw [lone.naming.settle]
    exact lone.naming
  · cases required.symm.trans (Naming.isOpen_of_isOptional optional)

theorem inProgress_step {e : Event} {ahead : List Event} (inner : e ≠ .startDocument ∧ e ≠ .endDocument)
    (progress : InProgress layout before s (e :: ahead)) (ran : Compile.step layout ahead e s = (.ok (), s')) :
    InProgress layout before s' ahead := by
  cases e with
  | startDocument => exact absurd rfl inner.1
  | endDocument => exact absurd rfl inner.2
  | startSubject node =>
    rcases progress with standing | ⟨_, quiet⟩
    · exact .inl (Moves.standing (Compile.moves_startSubject standing.layered ran) standing)
    · exact absurd quiet id
  | triple t =>
    rcases progress with standing | ⟨lone, required, quiet⟩
    · -- What is no move is a lone pattern, and with it the text changes from one kind to the other.
      rcases Compile.moves_statement standing.layered ran with
        ⟨moves, _⟩ | ⟨_, mid, p, same, quiet, _, moves, inOptional, _, rfl⟩
      · exact .inl (Moves.standing moves standing)
      · cases same
        exact .inr ⟨(Moves.standing moves standing).lone inOptional, quiet⟩
    · exact .inr ⟨lone.statement required ran, quiet⟩
  | endSubject node =>
    cases ran
    rcases progress with standing | ⟨lone, _⟩
    · exact .inl (Moves.standing (Session.moves_leaveTimes _ s) standing)
    · exact .inl (lone.leaveTimes _)
  | _ => cases ran; exact progress

theorem InProgress.flush {ahead : List Event} (progress : InProgress layout before s ahead) :
    InProgress layout (before ++ s.output) { s with output := [] } ahead := by
  have same : before ++ s.output ++ [] = before ++ s.output := List.append_nil _
  rcases progress with ⟨⟨layered, unclosed, clauses, separated⟩, timely⟩ |
    ⟨⟨⟨layered, unclosed, clauses, separated⟩, inOptional⟩, quiet⟩
  · refine .inl ⟨⟨layered, ?_, ?_, ?_⟩, ?_⟩
    · rwa [same]
    · rwa [same]
    · rwa [same]
    · unfold Timely
      rwa [same]
  · refine .inr ⟨⟨⟨layered, ?_, ?_, ?_⟩, inOptional⟩, quiet⟩
    · rwa [same]
    · rwa [same]
    · rwa [same]

theorem Session.stack_leaveTimes (count : Nat) (s : Session) :
    (s.leaveTimes layout count).stack = s.stack.drop count := by
  induction count generalizing s with
  | zero => rfl
  | succ count ih =>
    rw [leaveTimes, ih]
    cases top : s.stack with
    | nil => simp [leave, top]
    | cons f rest => simp [stack_leave top]

structure Finished (layout : Layout) (text : List Event) : Prop where
  nested : Nested text
  clauses : ∀ e ∈ text, e.isClause layout.unionForm = true
  separated : layout.unionForm = true → Separated (visible text)

theorem InProgress.finish {ahead : List Event} (progress : InProgress layout before s ahead) :
    Finished layout (before ++ (s.leaveAll layout).output) := by
  have written : Written layout before (s.leaveAll layout) := by
    rcases progress with standing | ⟨lone, _⟩
    · exact (Moves.standing (Session.moves_leaveTimes _ s) standing).toWritten
    · -- The first clause to end is the optional one of the lone pattern; from there on all are moves again.
      have inOptional := lone.inOptional
      unfold Session.inOptional at inOptional
      unfold Session.leaveAll
      cases top : s.stack with
      | nil => simp [top] at inOptional
      | cons f rest => exact (lone.leaveTimes rest.length).toWritten
  have empty : (s.leaveAll layout).stack = [] := by simp [Session.leaveAll, Session.stack_leaveTimes]
  refine ⟨?_, written.clauses, written.separated⟩
  have unclosed := written.unclosed
  rw [empty] at unclosed
  cases unclosed with
  | none nested => exact nested

/-- From any point inside a document to its end, by induction on the events that are left. The origins noted at the end
are those that the compilation knows then. -/
theorem finished_with_origins {body : List Event} (inner : ∀ e ∈ body, e ≠ .startDocument ∧ e ≠ .endDocument)
    (progress : InProgress layout before { s with output := [] } (body ++ [Event.endDocument]))
    (clean : (Compilation.ofSession layout s (body ++ [Event.endDocument])).violation = none) :
    ∃ text, Finished layout (before ++ text) ∧
      (Compilation.ofSession layout s (body ++ [Event.endDocument])).events = text ++ (Compile.footer layout
        (Compilation.ofSession layout s (body ++ [Event.endDocument])).origins ++ [Event.endDocument]) := by
  induction body generalizing s before with
  | nil =>
    obtain ⟨s', ran, _, events⟩ := Compilation.ofSession_cons clean
    have known := Compilation.origins_ofSession_cons ran
    cases ran
    refine ⟨_, progress.finish, ?_⟩
    rw [List.nil_append, events, known]
    simp [Compile.endDocument, Session.emit, Compilation.ofSession, Compilation.events]
  | cons e body ih =>
    rw [List.cons_append] at progress clean ⊢
    obtain ⟨s', ran, clean, events⟩ := Compilation.ofSession_cons clean
    have next := (inProgress_step (inner e (by simp)) progress ran).flush
    obtain ⟨text, finished, later⟩ := ih (fun d member => inner d (by simp [member])) next clean
    refine ⟨s'.output ++ text, by simpa using finished, ?_⟩
    rw [events, later, Compilation.origins_ofSession_cons ran, List.append_assoc]

theorem Ahead.base_of_mem_bases {events : List Event} {e : Event} (member : e ∈ bases events) :
    ∃ iri, e = .base iri := by
  obtain ⟨_, kept⟩ := List.mem_filter.mp member
  cases e <;> first | exact ⟨_, rfl⟩ | cases kept

theorem Ahead.declare_of_mem_declarations {events : List Event} {e : Event} (member : e ∈ declarations events) :
    ∃ label iri, e = .declare label iri := by
  obtain ⟨_, kept⟩ := List.mem_filter.mp member
  cases e <;> first | exact ⟨_, _, rfl⟩ | cases kept

/-- Events outside the brackets of a query, and those of its outermost bracket. -/
def Event.isShell : Event → Bool
  | startDocument | endDocument | base _ | declare _ _ | comment _ | select | ask | whereBlock _ => true
  | _ => false

theorem Event.isShell_not_union {e : Event} (shell : e.isShell = true) : e ≠ .union ∧ ∀ half, e ≠ .group half := by
  constructor
  · rintro rfl; cases shell
  · rintro half rfl; cases shell

theorem shell_frame (layout : Layout) (origins : Origins) (body ahead : List Event) :
    (Event.startDocument :: Ahead.bases ahead ++ Ahead.declarations ahead ++ Compile.header layout) ++
        (body ++ (Compile.footer layout origins ++ [Event.endDocument])) =
      Event.startDocument :: Ahead.bases ahead ++ Ahead.declarations ahead ++
        layout.shape.around body (origins.notes.map .comment) ++ [Event.endDocument] := by
  cases shape : layout.shape <;> simp [Compile.header, Compile.footer, Shape.around, shape]

theorem Nested.around {body notes : List Event} (shape : Shape) (nested : Nested body)
    (comments : ∀ e ∈ notes, ∃ text, e = .comment text) : Nested (shape.around body notes) := by
  have after : Nested notes := nested_of_plain fun e member => by
    obtain ⟨text, rfl⟩ := comments e member
    rfl
  cases shape with
  | select => exact .plain rfl (.pair .whereBlock nested after)
  | ask => exact .plain rfl (.pair .whereBlock nested after)
  | construct => exact nested

theorem Shape.around_split {notes : List Event} (shape : Shape) (comments : ∀ e ∈ notes, ∃ text, e = .comment text) :
    ∃ opening closing, (∀ body, shape.around body notes = opening ++ body ++ closing) ∧
      (∀ e ∈ opening, e.isShell = true) ∧ ∀ e ∈ closing, e.isShell = true := by
  have shell : ∀ e ∈ .whereBlock .closing :: notes, Event.isShell e = true := by
    intro e member
    rcases List.mem_cons.mp member with rfl | note
    · rfl
    · obtain ⟨text, rfl⟩ := comments e note
      rfl
  cases shape with
  | select => exact ⟨[.select, .whereBlock .opening], _, fun body => rfl, by simp [Event.isShell], shell⟩
  | ask => exact ⟨[.ask, .whereBlock .opening], _, fun body => rfl, by simp [Event.isShell], shell⟩
  | construct => exact ⟨[], [], fun body => by simp [around], by simp, by simp⟩

section Document

variable {bases declarations notes : List Event} (areBases : ∀ e ∈ bases, ∃ iri, e = .base iri)
  (areDeclarations : ∀ e ∈ declarations, ∃ label iri, e = .declare label iri)
  (areNotes : ∀ e ∈ notes, ∃ text, e = .comment text)

include areBases areDeclarations areNotes

theorem document_split (shape : Shape) :
    ∃ front back,
      (∀ body, Event.startDocument :: bases ++ declarations ++ shape.around body notes ++ [Event.endDocument] =
        front ++ body ++ back) ∧
      (∀ e ∈ front, e.isShell = true) ∧ (∀ e ∈ back, e.isShell = true) ∧ visible front ≠ [] := by
  obtain ⟨opening, closing, around, shellOpening, shellClosing⟩ := shape.around_split areNotes
  refine ⟨.startDocument :: bases ++ declarations ++ opening, closing ++ [Event.endDocument], ?_, ?_, ?_, ?_⟩
  · simp [around]
  · simp only [List.cons_append, List.mem_cons, List.mem_append]
    rintro e (rfl | (base | declaration) | opened)
    · rfl
    · obtain ⟨iri, rfl⟩ := areBases e base
      rfl
    · obtain ⟨label, iri, rfl⟩ := areDeclarations e declaration
      rfl
    · exact shellOpening e opened
  · simp only [List.mem_append, List.mem_singleton]
    rintro e (closed | rfl)
    · exact shellClosing e closed
    · rfl
  · simp [visible, Event.isMark]

theorem Nested.document {body : List Event} (shape : Shape) (nested : Nested body) :
    Nested (Event.startDocument :: bases ++ declarations ++ shape.around body notes ++ [Event.endDocument]) := by
  have front : Nested (Event.startDocument :: bases ++ declarations) := by
    apply nested_of_plain
    simp only [List.cons_append, List.mem_cons, List.mem_append]
    rintro e (rfl | base | declaration)
    · rfl
    · obtain ⟨iri, rfl⟩ := areBases e base
      rfl
    · obtain ⟨label, iri, rfl⟩ := areDeclarations e declaration
      rfl
  exact (front.append (nested.around shape areNotes)).append (.plain rfl .nil)

end Document

theorem Separated.inShell {front body back : List Event} (shellFront : ∀ e ∈ front, e.isShell = true)
    (shellBack : ∀ e ∈ back, e.isShell = true) (filled : visible front ≠ []) (separated : Separated (visible body)) :
    Separated (visible (front ++ body ++ back)) := by
  -- The shell around a body holds no alternatives, so that it cannot stand between two of them.
  rw [visible_append, visible_append]
  apply Separated.append
  · refine separated.behind (fun e member => ?_) filled
    exact Event.isShell_not_union (shellFront e (List.mem_of_mem_filter member))
  · intro e member
    obtain ⟨union, group⟩ := Event.isShell_not_union (shellBack e (List.mem_of_mem_filter member))
    exact ⟨union, group .opening⟩

theorem Finished.clauseWord {bases declarations body notes : List Event} (finished : Finished layout body)
    (areBases : ∀ e ∈ bases, ∃ iri, e = .base iri)
    (areDeclarations : ∀ e ∈ declarations, ∃ label iri, e = .declare label iri)
    (areNotes : ∀ e ∈ notes, ∃ text, e = .comment text) :
    ClauseWord layout
      (Event.startDocument :: bases ++ declarations ++ layout.shape.around body notes ++ [Event.endDocument]) := by
  obtain ⟨front, back, cut, shellFront, shellBack, filled⟩ :=
    document_split areBases areDeclarations areNotes layout.shape
  refine ⟨⟨bases, declarations, body, notes, rfl, areBases, areDeclarations, finished.clauses, areNotes⟩,
    finished.nested.document areBases areDeclarations areNotes layout.shape, ?_, ?_⟩
  · intro form
    have separated := (finished.separated form).inShell shellFront shellBack filled
    rw [← cut] at separated
    exact ⟨fun front back same => (same ▸ separated).around_union, fun front back => separated.no_adjacent_groups⟩
  · intro form e member
    rw [cut, List.append_assoc, List.mem_append, List.mem_append] at member
    rcases member with opened | inside | closed
    · exact Event.isShell_not_union (shellFront e opened)
    · have clause := finished.clauses e inside
      rw [form] at clause
      constructor
      · rintro rfl; cases clause
      · rintro half rfl; cases clause
    · exact Event.isShell_not_union (shellBack e closed)

theorem compile_clauseWord (layout : Layout) (body out : List Event)
    (inner : ∀ e ∈ body, e ≠ .startDocument ∧ e ≠ .endDocument)
    (compiled : compile layout ([.startDocument] ++ body ++ [.endDocument]) = .ok out) : ClauseWord layout out := by
  obtain ⟨clean, rfl⟩ := compile_eq_ok compiled
  unfold Compilation.ofEvents at clean ⊢
  rw [List.append_assoc, List.singleton_append] at clean ⊢
  obtain ⟨s, ran, clean, events⟩ := Compilation.ofSession_cons clean
  cases ran
  obtain ⟨text, finished, later⟩ := finished_with_origins inner (inProgress_start layout _) clean
  rw [events, later]
  change ClauseWord layout
    ((Event.startDocument :: Ahead.bases _ ++ Ahead.declarations _ ++ Compile.header layout) ++ _)
  rw [shell_frame]
  exact finished.clauseWord (fun _ => Ahead.base_of_mem_bases) (fun _ => Ahead.declare_of_mem_declarations) (by simp)

/-- A page with two properties, the first leading to a subject with one of its own, and one end of a subject
too many. -/
theorem compile_clauseWord_two_properties :
    let page : Node := { term := .var "page" }
    let friend : Node := { term := .var "friend" }
    let property (s o : Node) : Event := .triple ⟨s, { term := .iri "p:q" }, o, false⟩
    let pattern (s o : Node) : Event := .pattern ⟨s.term, .iri "p:q", o.term, false⟩
    let body : List Event := [.startSubject page, property page friend, .startSubject friend,
      property friend { term := .var "name" }, .endSubject friend, property page { term := .var "title" },
      .endSubject page, .endSubject page]
    let out : List Event := [.startDocument, .select, .whereBlock .opening, .startSubject page, .group .opening,
      pattern page friend, .startSubject friend, .optional .opening, pattern friend { term := .var "name" },
      .optional .closing, .endSubject friend, .group .closing, .union, .group .opening,
      pattern page { term := .var "title" }, .group .closing, .endSubject page, .whereBlock .closing, .endDocument]
    compile {} ([.startDocument] ++ body ++ [.endDocument]) = .ok out ∧ ClauseWord {} out := by
  intro page friend property pattern body out
  have compiled : compile {} ([Event.startDocument] ++ body ++ [Event.endDocument]) = .ok out := by decide +kernel
  exact ⟨compiled, compile_clauseWord {} body out (by decide) compiled⟩

end TemplateQuery
