import TemplateQuery.Proofs.Clause.Moves

/-! A ledger of the triples that a compilation visits: each triple of a document may be looked at when its subject
opens, brought forward then, and met in its place. The patterns of the query are those of the visits that write. -/

set_option autoImplicit false

namespace TemplateQuery

/-- A triple of a document, told from its likes by the number of events after it. -/
structure Place where
  after : Nat
  triple : Triple
  deriving DecidableEq

def places : List Event → List Place
  | [] => []
  | .triple t :: rest => ⟨rest.length, t⟩ :: places rest
  | _ :: rest => places rest

namespace Ahead

def ownPlaces : Nat → List Event → List Place
  | _, [] => []
  | depth, .startSubject _ :: rest => ownPlaces (depth + 1) rest
  | 0, .endSubject _ :: _ => []
  | depth + 1, .endSubject _ :: rest => ownPlaces depth rest
  | 0, .triple t :: rest => ⟨rest.length, t⟩ :: ownPlaces 0 rest
  | depth, _ :: rest => ownPlaces depth rest

def enclosingPlaces : Nat → Option String → List Event → List Place
  | _, _, [] => []
  | _, _, .endDocument :: _ => []
  | depth, nested, .startSubject node :: rest =>
    enclosingPlaces (depth + 1) (nested <|> some (node.primaryOrigin.getD "")) rest
  | 0, _, .endSubject _ :: _ => []
  | depth + 1, nested, .endSubject _ :: rest => enclosingPlaces depth nested rest
  | 0, nested, .triple t :: rest =>
    if nested.any (encloses · t) then ⟨rest.length, t⟩ :: enclosingPlaces 0 nested rest
    else enclosingPlaces 0 nested rest
  | depth, nested, _ :: rest => enclosingPlaces depth nested rest

theorem ownPlaces_triple (depth : Nat) (events : List Event) :
    (ownPlaces depth events).map Place.triple = ownTriples depth events := by
  fun_induction ownPlaces depth events <;> simp_all [ownTriples]

theorem enclosingPlaces_triple (depth : Nat) (nested : Option String) (events : List Event) :
    (enclosingPlaces depth nested events).map Place.triple = enclosing depth nested events := by
  fun_induction enclosingPlaces depth nested events <;> simp_all [enclosing]

theorem enclosingPlaces_sublist (depth : Nat) (nested : Option String) (events : List Event) :
    (enclosingPlaces depth nested events).Sublist (ownPlaces depth events) := by
  fun_induction enclosingPlaces depth nested events <;> simp_all [ownPlaces]

theorem triple_of_mem_ownTriples {depth : Nat} {events : List Event} {u : Triple}
    (member : u ∈ ownTriples depth events) : .triple u ∈ events := by
  fun_induction ownTriples depth events with
  | case1 | case3 => cases member
  | case5 t rest ih =>
    rcases List.mem_cons.mp member with rfl | later
    · exact List.mem_cons_self
    · exact List.mem_cons_of_mem _ (ih later)
  | case2 | case4 | case6 => rename_i ih; exact List.mem_cons_of_mem _ (ih member)

theorem triple_of_mem_enclosing {depth : Nat} {nested : Option String} {events : List Event} {u : Triple}
    (member : u ∈ enclosing depth nested events) : .triple u ∈ events := by
  rw [← enclosingPlaces_triple] at member
  have own := ((enclosingPlaces_sublist depth nested events).map Place.triple).subset member
  rw [ownPlaces_triple] at own
  exact triple_of_mem_ownTriples own

theorem literal_of_encloses {nested : String} {t : Triple} (around : encloses nested t = true) :
    t.object.term.isLiteral = true ∧ ∃ origin, t.object.origin = some origin := by
  cases known : t.object.origin with
  | none => simp [encloses, Node.primaryOrigin, known] at around
  | some origin => exact ⟨(Bool.and_eq_true_iff.mp around).1, origin, rfl⟩

theorem literal_of_enclosing {depth : Nat} {nested : Option String} {events : List Event} {place : Place}
    (member : place ∈ enclosingPlaces depth nested events) :
    place.triple.object.term.isLiteral = true ∧ ∃ origin, place.triple.object.origin = some origin := by
  fun_induction enclosingPlaces depth nested events with
  | case1 | case2 | case4 => cases member
  | case6 nested t rest around ih =>
    rcases List.mem_cons.mp member with rfl | later
    · cases nested with
      | none => cases around
      | some nested => exact literal_of_encloses around
    · exact ih later
  | case3 | case5 | case7 | case8 => rename_i ih; exact ih member

end Ahead

inductive Pass where
  /-- Its subject opens, and what is required is written first. -/
  | required
  /-- Its subject opens, and it stands around the first nested subject. -/
  | forward
  /-- It is met in its place. -/
  | inLine
  deriving DecidableEq

structure Visit where
  place : Place
  pass : Pass
  /-- The names known at the visit. -/
  known : Naming

namespace Visit

/-- Whether a visit writes its triple. One that leads to something fixed is written when its subject opens, one that
leads to a variable later, unless its literal was captured. -/
def writes (v : Visit) : Bool :=
  match v.pass with
  | .required => !v.place.triple.isOpen
  | .forward | .inLine => v.place.triple.isOpen && !v.known.isPromoted v.place.triple

def outcome (v : Visit) : Except Violation Pattern := (v.known.pattern v.place.triple).1

def resolves (v : Visit) : Bool :=
  match v.pass with
  | .required => !v.place.triple.isOpen
  | .forward | .inLine => !v.known.isPromoted v.place.triple

def next (v : Visit) : Naming := if v.resolves then (v.known.pattern v.place.triple).2 else v.known

variable {v : Visit}

theorem writes_of_late (late : v.pass ≠ .required) :
    v.writes = (v.place.triple.isOpen && !v.known.isPromoted v.place.triple) := by
  unfold writes
  split
  · next required => exact absurd required late
  · rfl
  · rfl

theorem resolves_of_late (late : v.pass ≠ .required) : v.resolves = !v.known.isPromoted v.place.triple := by
  unfold resolves
  split
  · next required => exact absurd required late
  · rfl
  · rfl

theorem resolves_of_writes (writes : v.writes = true) : v.resolves = true := by
  unfold Visit.writes at writes
  unfold resolves
  split at writes <;> simp_all

end Visit

def visitAll (pass : Pass) (n : Naming) : List Place → List Visit
  | [] => []
  | place :: rest => ⟨place, pass, n⟩ :: visitAll pass (Visit.next ⟨place, pass, n⟩) rest

def namingAfter (pass : Pass) (n : Naming) : List Place → Naming
  | [] => n
  | place :: rest => namingAfter pass (Visit.next ⟨place, pass, n⟩) rest

def visits (n : Naming) : List Event → List Visit
  | [] => []
  | .startSubject node :: rest =>
    let opened := (n.resolve node none true).2
    let own := Ahead.ownPlaces 0 rest
    let joined := namingAfter .required opened own
    let around := Ahead.enclosingPlaces 0 none rest
    visitAll .required opened own ++ visitAll .forward joined around ++ visits (namingAfter .forward joined around) rest
  | .triple t :: rest => ⟨⟨rest.length, t⟩, .inLine, n⟩ :: visits (Visit.next ⟨⟨rest.length, t⟩, .inLine, n⟩) rest
  | _ :: rest => visits n rest

def written (visits : List Visit) : List Visit := visits.filter Visit.writes

theorem written_append (first later : List Visit) : written (first ++ later) = written first ++ written later :=
  List.filter_append ..

def patterns (events : List Event) : List Pattern :=
  events.filterMap fun
    | .pattern p => some p
    | _ => none

theorem patterns_append (front back : List Event) : patterns (front ++ back) = patterns front ++ patterns back :=
  List.filterMap_append ..

theorem patterns_eq_nil {events : List Event} (plain : ∀ e ∈ events, ∀ p, e ≠ .pattern p) : patterns events = [] := by
  refine List.filterMap_eq_nil_iff.mpr fun e member => ?_
  cases e with
  | pattern p => exact absurd rfl (plain _ member p)
  | _ => rfl

theorem patterns_opening (layout : Layout) (ahead : List Event) :
    patterns (Event.startDocument :: Ahead.bases ahead ++ Ahead.declarations ahead ++ Compile.header layout) = [] := by
  apply patterns_eq_nil
  rintro e member p rfl
  simp only [List.cons_append, List.mem_cons, List.mem_append, reduceCtorEq, false_or] at member
  rcases member with (member | member) | member
  · simp [Ahead.bases] at member
  · simp [Ahead.declarations] at member
  · simpa using Compile.mem_header member

theorem patterns_closing (layout : Layout) (origins : Origins) :
    patterns (Compile.footer layout origins ++ [Event.endDocument]) = [] := by
  apply patterns_eq_nil
  rintro e member p rfl
  rcases List.mem_append.mp member with foot | last
  · simpa using Compile.mem_footer foot
  · cases List.mem_singleton.mp last

/-! ## What a session writes -/

structure Silent (s s' : Session) : Prop where
  naming : s'.naming = s.naming
  unwritten : patterns s'.output = patterns s.output

namespace Silent

variable (layout : Layout)

theorem refl (s : Session) : Silent s s := ⟨rfl, rfl⟩

theorem trans {a b c : Session} (first : Silent a b) (later : Silent b c) : Silent a c :=
  ⟨later.naming.trans first.naming, later.unwritten.trans first.unwritten⟩

theorem ite {a b c : Session} {p : Bool} (yes : Silent a b) (no : Silent a c) : Silent a (if p then b else c) := by
  split
  · exact yes
  · exact no

theorem enter (clause : Clause) (subject : Option Term) (s : Session) : Silent s (s.enter layout clause subject) := by
  refine ⟨rfl, ?_⟩
  rw [Session.output_enter]
  cases clause <;> cases subject <;> simp [Session.separator, Clause.bracket?, patterns] <;> grind

theorem leave (s : Session) : Silent s (s.leave layout) := by
  unfold Session.leave
  split
  · exact refl s
  · next frame stack _ =>
    refine ⟨rfl, ?_⟩
    obtain ⟨clause, subject, union⟩ := frame
    cases clause <;> cases subject <;> simp [Session.emit, Clause.bracket?, patterns] <;> grind

theorem anchor (s : Session) : Silent s s.anchor := by
  unfold Session.anchor
  split
  · exact ⟨rfl, rfl⟩
  · exact refl s

theorem settle (s : Session) : Silent s (s.settle layout) :=
  (anchor s).trans (ite (leave layout _) (refl _))

theorem ready (s : Session) : Silent s (s.ready layout) :=
  (settle layout s).trans (ite (enter layout _ _ _) (refl _))

theorem openSubject (subject : Term) (s : Session) : Silent s (s.openSubject layout subject) :=
  (anchor s).trans ((ite (leave layout _) (refl _)).trans (enter layout _ _ _))

theorem room (lone : Bool) (s : Session) :
    Silent s { (if lone then s else s.enter layout .optional none) with previous := none } :=
  (ite (refl s) (enter layout _ _ _)).trans ⟨rfl, rfl⟩

theorem leaveTimes (count : Nat) (s : Session) : Silent s (s.leaveTimes layout count) := by
  induction count generalizing s with
  | zero => exact refl s
  | succ count ih => exact (leave layout s).trans (ih _)

theorem startDocument (ahead : List Event) (s : Session) : Silent s (Compile.startDocument layout ahead s) := by
  refine ⟨rfl, ?_⟩
  rw [Compile.startDocument, Session.emit, patterns_append, patterns_opening, List.append_nil]

theorem endDocument (s : Session) : Silent s (Compile.endDocument layout s) := by
  have closed : Silent s (s.leaveAll layout) := leaveTimes layout _ s
  refine ⟨closed.naming, ?_⟩
  rw [Compile.endDocument, Session.emit, patterns_append, closed.unwritten, patterns_closing, List.append_nil]

end Silent

structure Writes (s : Session) (p : Pattern) (s' : Session) : Prop where
  naming : s'.naming = s.naming
  wrote : patterns s'.output = patterns s.output ++ [p]

namespace Writes

variable {s mid s' : Session} {p : Pattern}

theorem after (silent : Silent s mid) (writes : Writes mid p s') : Writes s p s' :=
  ⟨writes.naming.trans silent.naming, by rw [writes.wrote, silent.unwritten]⟩

theorem join (layout : Layout) (p : Pattern) (s : Session) : Writes s p (s.join layout p) := by
  have opened : Silent s (if s.inUnion then s.enter layout .group none else s) := .ite (.enter layout _ _ _) (.refl s)
  refine after opened ⟨rfl, ?_⟩
  rw [Session.join, Session.write, Session.emit, patterns_append]
  rfl

theorem place (layout : Layout) (lone : Bool) (p : Pattern) (s : Session) : Writes s p (s.place layout lone p) := by
  have opened : Silent s (if lone && s.inOptional then s else s.enter layout .group none) :=
    .ite (.refl s) (.enter layout _ _ _)
  refine after opened ⟨rfl, ?_⟩
  rw [Session.place, Session.write, Session.emit, patterns_append]
  rfl

end Writes

/-- The names and the patterns that a stretch of compilation adds are those of its visits, and these have no
violation. -/
structure Records (s s' : Session) (n : Naming) (seen : List Visit) : Prop where
  naming : s'.naming = n
  wrote : (patterns s'.output).map Except.ok = (patterns s.output).map Except.ok ++ (written seen).map Visit.outcome
  clean : ∀ v ∈ seen, v.resolves = true → ∃ p, v.outcome = .ok p

namespace Records

theorem of_silent {s s' : Session} (silent : Silent s s') : Records s s' s.naming [] :=
  ⟨silent.naming, by simp [silent.unwritten, written], by simp⟩

theorem trans {a b c : Session} {n m : Naming} {first later : List Visit} (before : Records a b n first)
    (after : Records b c m later) : Records a c m (first ++ later) :=
  ⟨after.naming, by rw [after.wrote, before.wrote, written_append]; simp, fun v member =>
    (List.mem_append.mp member).elim (before.clean v) (after.clean v)⟩

theorem of_writes {s s' : Session} {v : Visit} {p : Pattern} {n : Naming} (writes : v.writes = true)
    (found : v.known.pattern v.place.triple = (.ok p, n)) (wrote : Writes { s with naming := n } p s') :
    Records s s' v.next [v] := by
  refine ⟨?_, ?_, ?_⟩
  · rw [wrote.naming, Visit.next, if_pos (Visit.resolves_of_writes writes), found]
  · simp [wrote.wrote, written, writes, Visit.outcome, found]
  · simp [Visit.outcome, found]

end Records

namespace Compile

variable {layout : Layout} {s s' : Session}

theorem records_require {place : Place} (ran : require layout place.triple s = (.ok (), s')) :
    Records s s' (Visit.next ⟨place, .required, s.naming⟩) [⟨place, .required, s.naming⟩] := by
  rcases require_ok ran with ⟨optional, rfl⟩ | ⟨p, n, required, found, rfl⟩
  · have isOpen := Naming.isOpen_of_isOptional optional
    exact ⟨by simp [Visit.next, Visit.resolves, isOpen], by simp [written, Visit.writes, isOpen],
      by simp [Visit.resolves, isOpen]⟩
  · have shut := Naming.isOpen_of_isOptional required
    exact .of_writes (by simp [Visit.writes, shut]) found (.join layout p _)

theorem records_statement {place : Place} {pass : Pass} {ahead? : Option (List Event)} (late : pass ≠ .required)
    (ran : statement layout ahead? place.triple s = (.ok (), s')) :
    Records s s' (Visit.next ⟨place, pass, s.naming⟩) [⟨place, pass, s.naming⟩] := by
  have writes := @Visit.writes_of_late ⟨place, pass, s.naming⟩ late
  have resolves := @Visit.resolves_of_late ⟨place, pass, s.naming⟩ late
  rcases statement_ok ran with ⟨promoted, rfl⟩ | ⟨p, n, plain, found, ⟨required, rfl⟩ | ⟨lone, optional, -, rfl⟩⟩
  · exact ⟨by simp [Visit.next, resolves, promoted], by simp [written, writes, promoted], by simp [resolves, promoted]⟩
  · -- Written when the subject opened: here its names are resolved once more and nothing is written.
    have shut := Naming.isOpen_of_isOptional required
    have silent := Silent.settle layout { s with naming := n }
    refine ⟨?_, ?_, ?_⟩
    · simp [silent.naming, Visit.next, resolves, plain, found]
    · simp [silent.unwritten, written, writes, shut]
    · simp [Visit.outcome, found]
  · have isOpen := Naming.isOpen_of_isOptional optional
    exact .of_writes (by simp [writes, isOpen, plain]) found (.after (.ready layout _) (.place layout lone p _))

theorem records_forM {f : Triple → Compile Unit} {pass : Pass}
    (each : ∀ (place : Place) (s s' : Session), f place.triple s = (.ok (), s') →
      Records s s' (Visit.next ⟨place, pass, s.naming⟩) [⟨place, pass, s.naming⟩])
    (todo : List Place) {s s' : Session} {n : Naming} (known : s.naming = n)
    (ran : (todo.map Place.triple).forM f s = (.ok (), s')) :
    Records s s' (namingAfter pass n todo) (visitAll pass n todo) := by
  -- The visits name the names known at each triple, so these are threaded along with the session.
  induction todo generalizing s n with
  | nil => cases ran; cases known; exact .of_silent (.refl _)
  | cons place todo ih =>
    rw [List.map_cons] at ran
    obtain ⟨mid, first, later⟩ := forM_cons_ok ran
    have here := each place s mid first
    rw [known] at here
    exact here.trans (ih here.naming later)

theorem records_startSubject {node : Node} {ahead : List Event}
    (ran : startSubject layout node ahead s = (.ok (), s')) :
    let opened := (s.naming.resolve node none true).2
    let joined := namingAfter .required opened (Ahead.ownPlaces 0 ahead)
    let around := Ahead.enclosingPlaces 0 none ahead
    Records s s' (namingAfter .forward joined around)
      (visitAll .required opened (Ahead.ownPlaces 0 ahead) ++ visitAll .forward joined around) := by
  intro opened joined around
  obtain ⟨subject, n, middle, lone, found, first, -, brought⟩ := startSubject_ok ran
  rw [← Ahead.ownPlaces_triple] at first
  rw [← Ahead.enclosingPlaces_triple] at brought
  have front : Records s ({ s with naming := n }.openSubject layout subject) opened [] := by
    have silent := Silent.openSubject layout subject { s with naming := n }
    exact ⟨by simp only [silent.naming, opened, found], by simp [silent.unwritten, written], by simp⟩
  have required := records_forM (fun _ _ _ => records_require) _ front.naming first
  have room := Silent.room layout lone middle
  have forward := records_forM (fun _ _ _ => records_statement (show Pass.forward ≠ .required by decide)) _
    (room.naming.trans required.naming) brought
  exact (front.trans required).trans ((Records.of_silent room).trans forward)

theorem records_step {e : Event} {ahead : List Event} (ran : step layout ahead e s = (.ok (), s')) :
    ∃ n seen, Records s s' n seen ∧ visits s.naming (e :: ahead) = seen ++ visits n ahead := by
  cases e with
  | startDocument => cases ran; exact ⟨_, _, .of_silent (.startDocument layout ahead s), rfl⟩
  | endDocument => cases ran; exact ⟨_, _, .of_silent (.endDocument layout s), rfl⟩
  | startSubject node => exact ⟨_, _, records_startSubject ran, rfl⟩
  | triple t =>
    exact ⟨_, _, @records_statement layout s s' ⟨ahead.length, t⟩ .inLine ahead (by decide) ran, rfl⟩
  | endSubject node => cases ran; exact ⟨_, _, .of_silent (.leaveTimes layout _ _), rfl⟩
  | base _ | declare _ _ | startGraph _ | endGraph _ | pattern _ | comment _ | select | ask | whereBlock _ | optional _
  | group _ | union | orderBy _ =>
    cases ran
    exact ⟨_, _, .of_silent (.refl _), rfl⟩

end Compile

/-- The patterns of a query are those of the visits that write, in order. -/
theorem patterns_of_ofSession {layout : Layout} {s : Session} {events : List Event}
    (clean : (Compilation.ofSession layout s events).violation = none) :
    (patterns (Compilation.ofSession layout s events).events).map Except.ok =
      (written (visits s.naming events)).map Visit.outcome := by
  induction events generalizing s with
  | nil => rfl
  | cons e rest ih =>
    obtain ⟨s', ran, later, same⟩ := Compilation.ofSession_cons clean
    obtain ⟨n, seen, records, split⟩ := Compile.records_step ran
    have tail := ih later
    rw [records.naming] at tail
    rw [same, patterns_append, List.map_append, records.wrote, tail]
    rw [show visits s.naming (e :: rest) = seen ++ visits n rest from split, written_append]
    simp [patterns]

theorem outcome_of_ofSession {layout : Layout} {s : Session} {events : List Event}
    (clean : (Compilation.ofSession layout s events).violation = none) :
    ∀ v ∈ visits s.naming events, v.resolves = true → ∃ p, v.outcome = .ok p := by
  induction events generalizing s with
  | nil => simp [visits]
  | cons e rest ih =>
    obtain ⟨s', ran, later, -⟩ := Compilation.ofSession_cons clean
    obtain ⟨n, seen, records, split⟩ := Compile.records_step ran
    have tail := ih later
    rw [records.naming] at tail
    intro v member
    rw [show visits s.naming (e :: rest) = seen ++ visits n rest from split] at member
    exact (List.mem_append.mp member).elim (records.clean v) (tail v)

end TemplateQuery
