import TemplateQuery.Proofs.Clause.Acts

/-! The course of a whole compilation, event by event, with every pattern of the query in its brackets and the visit it
comes from. -/

set_option autoImplicit false

namespace TemplateQuery

inductive Turn (layout : Layout) (t : Trace) (ahead : List Event) (s : Session) :
    Event → List Site → Session → Prop where
  | opens {node : Node} {sites : List Site} {s' : Session} (opens : Compile.Opens layout t node ahead s sites s') :
      Turn layout t ahead s (.startSubject node) sites s'
  | meets {u : Triple} {sites : List Site} {s' : Session} (acts : Acts layout t (Quiet ahead) s sites s')
      (visit : sites.map Prod.snd = written [⟨⟨ahead.length, u⟩, .inLine, s.naming⟩])
      (ran : Compile.statement layout (some ahead) u s = (.ok (), s')) :
      Turn layout t ahead s (.triple u) sites s'
  | closes (node : Node) : Turn layout t ahead s (.endSubject node) [] (s.leaveSubject layout)
  | passes {e : Event} (noStart : ∀ node, e ≠ .startSubject node) (noEnd : ∀ node, e ≠ .endSubject node)
      (noTriple : ∀ u, e ≠ .triple u) : Turn layout t ahead s e [] s

variable {layout : Layout} {t : Trace} {s s' : Session} {sites : List Site} {ahead rest : List Event}

theorem Compile.Opens.acts {node : Node} (opens : Compile.Opens layout t node ahead s sites s') :
    ∃ subject outside, outside.stack ≠ [] ∧ Acts layout t False s [] outside ∧
      Acts layout t False (outside.enter layout .block (some subject)) sites s' := by
  obtain ⟨subject, outside, joined, lone, required, forward, rfl, opening⟩ := opens
  have acts := (opening.first.trans opening.room).trans opening.later
  rw [List.append_nil] at acts
  exact ⟨subject, outside, opening.inside, opening.left, acts⟩

theorem Compile.Opens.visits {node : Node} (opens : Compile.Opens layout t node ahead s sites s') :
    let opened := (s.naming.resolve node none true).2
    let joined := namingAfter .required opened (Ahead.ownPlaces 0 ahead)
    sites.map Prod.snd = written (visitAll .required opened (Ahead.ownPlaces 0 ahead) ++
      visitAll .forward joined (Ahead.enclosingPlaces 0 none ahead)) := by
  obtain ⟨subject, outside, _, lone, required, forward, rfl, opening⟩ := opens
  intro opened joined
  have names : opened = outside.naming := congrArg Prod.snd opening.named
  have joins := opening.joins
  rw [← Ahead.ownPlaces_triple] at joins
  have start : (outside.enter layout .block (some subject)).naming = opened := names.symm
  have known := (records_forM (fun _ _ _ => records_require) _ start joins).naming
  rw [List.map_append, opening.firstVisits, opening.laterVisits, written_append, known, ← names]

namespace Turn

variable {e : Event}

theorem layered (turn : Turn layout t ahead s e sites s') (layered : Layered layout s.stack) :
    Layered layout s'.stack := by
  cases turn with
  | opens opens =>
    obtain ⟨_, _, inside, left, acts⟩ := opens.acts
    exact acts.layered (Session.layered_enter (left.layered layered) inside (by simp))
  | meets acts => exact acts.layered layered
  | closes => exact (Session.moves_leaveTimes _ s).layered layered
  | passes => exact layered

theorem sites_leaveTimes (count : Nat) (s : Session) :
    ((s.leaveTimes layout count).traced t).sites = (s.traced t).sites := by
  induction count generalizing s with
  | zero => rfl
  | succ count ih => rw [Session.leaveTimes, ih, Session.sites_leave]

theorem sites_eq (turn : Turn layout t ahead s e sites s') :
    (s'.traced t).sites = (s.traced t).sites ++ sites.map Prod.fst := by
  cases turn with
  | opens opens =>
    obtain ⟨_, _, _, left, acts⟩ := opens.acts
    rw [acts.sites_eq, Session.sites_enter, left.sites_eq]
    simp
  | meets acts => exact acts.sites_eq
  | closes => rw [Session.leaveSubject, sites_leaveTimes]; simp
  | passes => simp

end Turn

theorem turn_of_step {e : Event} (inner : e ≠ .startDocument ∧ e ≠ .endDocument) (layered : Layered layout s.stack)
    (ran : Compile.step layout ahead e s = (.ok (), s')) :
    ∃ sites, Turn layout t ahead s e sites s' ∧
      ∃ seen, visits s.naming (e :: ahead) = seen ++ visits s'.naming ahead ∧ sites.map Prod.snd = written seen := by
  cases e with
  | startDocument => exact absurd rfl inner.1
  | endDocument => exact absurd rfl inner.2
  | startSubject node =>
    obtain ⟨sites, opens⟩ := Compile.opens_startSubject (t := t) layered ran
    refine ⟨sites, .opens opens, _, ?_, opens.visits⟩
    rw [(Compile.records_startSubject ran).naming]
    rfl
  | triple u =>
    have late : Pass.inLine ≠ .required := by decide
    obtain ⟨sites, acts, visit⟩ :=
      @Compile.acts_statement layout t s s' ⟨ahead.length, u⟩ .inLine ahead late layered ran
    refine ⟨sites, .meets (acts.mono ?_) visit ran, _, ?_, visit⟩
    · rintro ⟨_, ⟨⟩, quiet⟩
      exact quiet
    · rw [(@Compile.records_statement layout s s' ⟨ahead.length, u⟩ .inLine ahead late ran).naming]
      rfl
  | endSubject node =>
    cases ran
    have names : (s.leaveSubject layout).naming = s.naming := (Silent.leaveTimes layout _ s).naming
    exact ⟨[], .closes node, [], congrArg (visits · ahead) names.symm, rfl⟩
  | base _ | declare _ _ | startGraph _ | endGraph _ | pattern _ | comment _ | select | ask | whereBlock _ | optional _
  | group _ | union | orderBy _ =>
    cases ran
    exact ⟨[], .passes (by simp) (by simp) (by simp), [], rfl, rfl⟩

/-- The events of a part of a document, with `rest` after them. Before each event the text so far is read, and the
session writes anew. -/
inductive Course (layout : Layout) (rest : List Event) :
    Trace → Session → List Event → List Site → Trace → Session → Prop where
  | nil (t : Trace) (s : Session) : Course layout rest t s [] [] t s
  | cons {t t' : Trace} {s s₁ s' : Session} {e : Event} {events : List Event} {sites more : List Site}
      (turn : Turn layout t (events ++ rest) { s with output := [] } e sites s₁)
      (later : Course layout rest (s₁.traced t) s₁ events more t' s') :
      Course layout rest t s (e :: events) (sites ++ more) t' s'

theorem Course.append {t t' : Trace} {front back : List Event}
    (course : Course layout rest t s (front ++ back) sites t' s') :
    ∃ middle mid before after, Course layout (back ++ rest) t s front before middle mid ∧
      Course layout rest middle mid back after t' s' ∧ sites = before ++ after := by
  induction front generalizing t s sites with
  | nil => exact ⟨t, s, [], sites, .nil t s, course, rfl⟩
  | cons e front ih =>
    cases course with
    | cons turn later =>
      obtain ⟨middle, mid, before, after, first, second, same⟩ := ih later
      rw [show front.append back ++ rest = front ++ (back ++ rest) from List.append_assoc ..] at turn
      exact ⟨middle, mid, _, after, .cons turn first, second, by rw [same, List.append_assoc]⟩

theorem Course.layered {t t' : Trace} {events : List Event} (course : Course layout rest t s events sites t' s')
    (layered : Layered layout s.stack) : Layered layout s'.stack := by
  induction course with
  | nil => exact layered
  | cons turn _ ih => exact ih (turn.layered layered)

theorem Course.sites_eq {t t' : Trace} {events : List Event} (course : Course layout rest t s events sites t' s') :
    t'.sites = t.sites ++ sites.map Prod.fst := by
  induction course with
  | nil => simp
  | cons turn _ ih =>
    rw [ih, turn.sites_eq, List.map_append, List.append_assoc]
    rfl

theorem course_of_ofSession {events : List Event} (inner : ∀ e ∈ events, e ≠ .startDocument ∧ e ≠ .endDocument)
    (layered : Layered layout s.stack) (clean : (Compilation.ofSession layout s (events ++ rest)).violation = none) :
    ∃ sites s' text seen, Course layout rest t s events sites (t.readAll text) s' ∧
      (Compilation.ofSession layout s' rest).violation = none ∧
      (Compilation.ofSession layout s (events ++ rest)).events = text ++ (Compilation.ofSession layout s' rest).events ∧
      visits s.naming (events ++ rest) = seen ++ visits s'.naming rest ∧ sites.map Prod.snd = written seen := by
  induction events generalizing t s with
  | nil => exact ⟨[], s, [], [], .nil t s, clean, rfl, rfl, rfl⟩
  | cons e events ih =>
    rw [List.cons_append] at clean ⊢
    obtain ⟨s₁, ran, clean, wrote⟩ := Compilation.ofSession_cons clean
    obtain ⟨here, turn, first, split, firstVisits⟩ :=
      turn_of_step (s := { s with output := [] }) (t := t) (inner e (by simp)) layered ran
    have next := turn.layered layered
    obtain ⟨more, s', text, later, course, fine, same, rest, laterVisits⟩ :=
      ih (t := s₁.traced t) (fun d member => inner d (by simp [member])) next clean
    refine ⟨here ++ more, s', s₁.output ++ text, first ++ later, ?_, fine, ?_, ?_, ?_⟩
    · rw [Trace.readAll_append]
      exact .cons turn course
    · rw [wrote, same, List.append_assoc]
    · rw [List.append_assoc, ← rest]
      exact split
    · rw [List.map_append, firstVisits, laterVisits, written_append]

def sited (document out : List Event) : List Site := (trace out).sites.zip (written (visits {} document))

theorem outcome_sited {document out : List Event} (compiled : compile layout document = .ok out) :
    (patterns out).map Except.ok = (sited document out).map (·.2.outcome) := by
  obtain ⟨clean, same⟩ := compile_eq_ok compiled
  have wrote : (patterns out).map Except.ok = (written (visits {} document)).map Visit.outcome := by
    rw [← same]
    exact patterns_of_ofSession clean
  obtain ⟨new, read, count⟩ := Trace.sites_readAll {} out
  have lengths : (written (visits {} document)).length ≤ (trace out).sites.length := by
    have := congrArg List.length wrote
    rw [List.length_map, List.length_map] at this
    rw [trace, read, List.nil_append, count, this]
  rw [wrote, ← List.map_snd_zip lengths, List.map_map]
  rfl

theorem Trace.sites_of_plain {text : List Event} (plain : patterns text = []) (t : Trace) :
    (t.readAll text).sites = t.sites := by
  obtain ⟨new, same, count⟩ := t.sites_readAll text
  rw [plain] at count
  rw [same, List.length_eq_zero_iff.mp count, List.append_nil]

/-- A whole document that compiles: an opening and an ending without patterns around the course of its body. -/
theorem course_of_compile {body out : List Event} (inner : ∀ e ∈ body, e ≠ .startDocument ∧ e ≠ .endDocument)
    (compiled : compile layout ([Event.startDocument] ++ body ++ [Event.endDocument]) = .ok out) :
    ∃ opening closing s t' s', Course layout [.endDocument] (trace opening) s body
        (sited ([Event.startDocument] ++ body ++ [Event.endDocument]) out) t' s' ∧
      s.stack = [] ∧ patterns opening = [] ∧ trace out = t'.readAll closing := by
  obtain ⟨clean, rfl⟩ := compile_eq_ok compiled
  unfold Compilation.ofEvents at clean ⊢
  rw [List.append_assoc, List.singleton_append] at clean ⊢
  obtain ⟨s, ran, clean, events⟩ := Compilation.ofSession_cons clean
  cases ran
  let opening := Event.startDocument :: Ahead.bases (body ++ [Event.endDocument]) ++
    Ahead.declarations (body ++ [Event.endDocument]) ++ Compile.header layout
  have plain : patterns opening = [] := patterns_opening layout _
  obtain ⟨sites, s', text, seen, course, last, wrote, split, same⟩ :=
    course_of_ofSession (t := trace opening) inner (show Layered layout [] from trivial) clean
  obtain ⟨_, ran, _, ending⟩ := Compilation.ofSession_cons last
  cases ran
  let closing := (Compile.endDocument layout { s' with output := [] }).output
  have whole : (Compilation.ofSession layout {} (Event.startDocument :: (body ++ [Event.endDocument]))).events =
      opening ++ (text ++ closing) := by
    rw [events, wrote, ending]
    exact congrArg (opening ++ ·) (congrArg (text ++ ·) (List.append_nil _))
  rw [whole]
  have read : trace (opening ++ (text ++ closing)) = ((trace opening).readAll text).readAll closing := by
    rw [trace, Trace.readAll_append, Trace.readAll_append]
    rfl
  -- Brackets and visits come in the same order, one of each for a pattern, so the sites are the two lists zipped.
  have all : sites = sited (Event.startDocument :: (body ++ [Event.endDocument])) (opening ++ (text ++ closing)) := by
    refine List.zip_of_prod ?_ ?_
    · have bare : (trace opening).sites = [] := Trace.sites_of_plain plain {}
      have silent := Silent.endDocument layout { s' with output := [] }
      rw [read, Trace.sites_of_plain silent.unwritten, course.sites_eq, bare, List.nil_append]
    · rw [same]
      have none : visits s'.naming [Event.endDocument] = [] := rfl
      rw [none, List.append_nil] at split
      exact congrArg written split.symm
  rw [all] at course
  exact ⟨opening, closing, _, _, s', course, rfl, plain, read⟩

end TemplateQuery
