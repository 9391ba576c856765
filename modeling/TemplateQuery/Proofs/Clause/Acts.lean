import TemplateQuery.Proofs.Clause.Trace

/-! What a compilation does inside a subject, act by act. An act says why it opens or closes a clause, and which visit
it writes for; so what becomes of a clause is seen from the acts alone. -/

set_option autoImplicit false

namespace TemplateQuery

/-- One change to a session, with the visits that it writes. `still` says that nothing optional or nested is ahead. -/
inductive Act (layout : Layout) (still : Prop) : Session → List Visit → Session → Prop where
  | quiet {s s' : Session} (stack : s'.stack = s.stack) (first : s'.first = s.first) (output : s'.output = s.output) :
      Act layout still s [] s'
  | anchor (s : Session) : Act layout still s [] s.anchor
  | detach {s : Session} (dangling : s.dangling = true) : Act layout still s [] (s.leave layout)
  | optional {s : Session} (inside : s.stack ≠ []) (apart : layout.unionForm = true → s.inUnion = false)
      (settled : layout.unionForm = true → s.dangling = true → s.first = true) :
      Act layout still s [] (s.enter layout .optional none)
  | join {s : Session} {v : Visit} (p : Pattern) (inside : s.stack ≠ []) (required : v.pass = .required) :
      Act layout still s [v] (s.join layout p)
  | alternative {s : Session} {v : Visit} (p : Pattern) (inside : s.stack ≠ []) (late : v.pass ≠ .required)
      (among : layout.unionForm = true → s.inUnion = true) :
      Act layout still s [v] { (s.enter layout .group none).write p with first := false }
  | lone {s : Session} {v : Visit} (p : Pattern) (quiet : still) (inOptional : s.inOptional = true)
      (first : s.first = true) : Act layout still s [v] { s.write p with first := false }

abbrev Site := List Nat × Visit

/-- Acts one after the other, and the patterns that they write. A pattern is written last in its act, so the brackets
around it are those open then. -/
inductive Acts (layout : Layout) (t : Trace) (still : Prop) : Session → List Site → Session → Prop where
  | refl (s : Session) : Acts layout t still s [] s
  | tail {s s' s'' : Session} {sites : List Site} {vs : List Visit} :
      Acts layout t still s sites s' → Act layout still s' vs s'' →
      Acts layout t still s (sites ++ vs.map fun v => ((s''.traced t).opens, v)) s''

variable {layout : Layout} {t : Trace} {still : Prop} {s s' s'' : Session} {vs : List Visit}

namespace Act

theorem layered (act : Act layout still s vs s') (layered : Layered layout s.stack) : Layered layout s'.stack := by
  cases act with
  | quiet stack => rw [stack]; exact layered
  | anchor => exact Session.layered_anchor layered
  | detach => exact Session.layered_leave layered
  | optional inside apart => exact Session.layered_enter layered inside (by simpa using apart)
  | join p inside =>
    unfold Session.join
    split
    · next among => exact Session.layered_enter layered inside (by simp [among])
    · exact layered
  | alternative p inside _ among => exact Session.layered_enter layered inside (by simpa using among)
  | lone => exact layered

theorem filled (act : Act layout still s vs s') (layered : Layered layout s.stack) (inside : s.stack ≠ []) :
    s'.stack ≠ [] := by
  cases act with
  | quiet stack => rwa [stack]
  | anchor => exact Session.anchor_stack_ne_nil s
  | detach dangling => exact Session.leave_dangling_ne_nil layered dangling
  | optional => simp [Session.enter]
  | join p =>
    unfold Session.join
    split
    · simp [Session.enter, Session.write, Session.emit]
    · exact inside
  | alternative => simp [Session.enter, Session.write, Session.emit]
  | lone => exact inside

theorem few (act : Act layout still s vs s') : vs.length ≤ 1 := by
  cases act <;> simp

theorem grows (act : Act layout still s vs s') : ∃ text, s'.output = s.output ++ text := by
  cases act with
  | quiet _ _ output => exact ⟨[], by simpa using output⟩
  | anchor =>
    unfold Session.anchor
    split <;> exact ⟨[], (List.append_nil _).symm⟩
  | detach => exact Session.leave_grows layout s
  | optional => exact ⟨_, Session.output_enter _ _⟩
  | join p =>
    unfold Session.join
    split
    · exact ⟨_, List.append_assoc ..⟩
    · exact ⟨_, rfl⟩
  | alternative p => exact ⟨_, List.append_assoc ..⟩
  | lone p => exact ⟨_, rfl⟩

theorem sites_of_output {mid : Session} {v : Visit} {p : Pattern} (output : s'.output = mid.output ++ [Event.pattern p])
    (unwritten : (mid.traced t).sites = (s.traced t).sites) :
    (s'.traced t).sites = (s.traced t).sites ++ [v].map fun _ => (s'.traced t).opens := by
  rw [Session.sites_pattern output, Session.opens_pattern output, unwritten]
  rfl

theorem sites (act : Act layout still s vs s') :
    (s'.traced t).sites = (s.traced t).sites ++ vs.map fun _ => (s'.traced t).opens := by
  cases act with
  | quiet _ _ output => simp [Session.traced, output]
  | anchor =>
    unfold Session.anchor
    split <;> simp [Session.traced]
  | detach => simp [Session.sites_leave]
  | optional => simp [Session.sites_enter]
  | join p =>
    refine sites_of_output
      (show _ = (if s.inUnion then s.enter layout .group none else s).output ++ [Event.pattern p] from rfl) ?_
    split
    · exact Session.sites_enter _ _
    · rfl
  | alternative p => exact sites_of_output rfl (Session.sites_enter .group none)
  | lone p => exact sites_of_output rfl rfl

end Act

namespace Acts

variable {sites more : List Site}

theorem silent (act : Act layout still s [] s') : Acts layout t still s [] s' := (Acts.refl s).tail act

theorem trans (first : Acts layout t still s sites s') (later : Acts layout t still s' more s'') :
    Acts layout t still s (sites ++ more) s'' := by
  induction later with
  | refl => simpa using first
  | tail _ act ih =>
    rw [← List.append_assoc]
    exact ih.tail act

theorem mono {other : Prop} (acts : Acts layout t still s sites s') (only : still → other) :
    Acts layout t other s sites s' := by
  induction acts with
  | refl => exact .refl _
  | tail _ act ih =>
    refine ih.tail ?_
    cases act with
    | quiet stack first output => exact .quiet stack first output
    | anchor => exact .anchor _
    | detach dangling => exact .detach dangling
    | optional inside apart settled => exact .optional inside apart settled
    | join p inside required => exact .join p inside required
    | alternative p inside late among => exact .alternative p inside late among
    | lone p quiet inOptional first => exact .lone p (only quiet) inOptional first

theorem layered (acts : Acts layout t still s sites s') (layered : Layered layout s.stack) :
    Layered layout s'.stack := by
  induction acts with
  | refl => exact layered
  | tail _ act ih => exact act.layered ih

theorem grounded (acts : Acts layout t still s sites s') (grounded : Grounded layout s) : Grounded layout s' := by
  induction acts with
  | refl => exact grounded
  | tail _ act ih => exact ⟨act.layered ih.1, act.filled ih.1 ih.2⟩

theorem sites_eq (acts : Acts layout t still s sites s') :
    (s'.traced t).sites = (s.traced t).sites ++ sites.map Prod.fst := by
  induction acts with
  | refl => simp
  | tail _ act ih =>
    rw [act.sites, ih]
    simp only [List.map_append, List.map_map, List.append_assoc, Function.comp_def]

end Acts

/-! ## The steps as acts -/

namespace Session

theorem acts_settle (s : Session) : Acts layout t still s [] (s.settle layout) := by
  have anchored : Acts layout t still s [] s.anchor := .silent (.anchor s)
  unfold settle
  simp only
  split
  · next dangling => exact anchored.tail (.detach (by simp_all))
  · exact anchored

theorem settled_of_apart (layered : Layered layout s.stack) (form : layout.unionForm = true)
    (apart : (s.settle layout).inUnion = false) (dangling : (s.settle layout).dangling = true) :
    (s.settle layout).first = true := by
  -- A group is left only for the union around it, so where an optional clause is called for none was left.
  replace layered := layered_anchor layered
  unfold settle at *
  simp only at *
  generalize s.anchor = s at *
  split at apart
  · next left =>
    cases top : s.stack with
    | nil => simp [Session.dangling, top] at left
    | cons f rest =>
      have group : f.clause = .group := by simp_all [Session.dangling]
      cases apart.symm.trans (inUnion_of_group layered form top group).2
  · next kept =>
    rw [if_neg kept] at dangling ⊢
    simpa [dangling] using kept

theorem acts_ready (layered : Layered layout s.stack) : Acts layout t still s [] (s.ready layout) := by
  have settled : Acts layout t still s [] (s.settle layout) := acts_settle s
  unfold ready
  simp only
  split
  · next needed =>
    simp only [Bool.and_eq_true, Bool.not_eq_eq_eq_not, Bool.not_true] at needed
    exact settled.tail (.optional (moves_settle layered).2 (fun _ => needed.1) fun form =>
      settled_of_apart layered form needed.1)
  · exact settled

/-- Where a subject opens: a group that the previous triple has left open ends, unless the subject continues that
triple. -/
def outside (layout : Layout) (subject : Term) (s : Session) : Session :=
  if s.anchor.dangling && !s.anchor.chained subject then s.anchor.leave layout else s.anchor

theorem openSubject_eq (subject : Term) (s : Session) :
    s.openSubject layout subject = (s.outside layout subject).enter layout .block (some subject) := rfl

theorem outside_of_chained {subject : Term} (filled : s.stack ≠ []) (continues : s.chained subject = true) :
    s.outside layout subject = s := by
  simp [outside, anchor_eq_self filled, continues]

theorem acts_outside (subject : Term) (layered : Layered layout s.stack) :
    Acts layout t still s [] (s.outside layout subject) ∧ (s.outside layout subject).stack ≠ [] ∧
      (s.outside layout subject).naming = s.naming := by
  have anchored : Acts layout t still s [] s.anchor := .silent (.anchor s)
  unfold outside
  split
  · next apart =>
    have dangling : s.anchor.dangling = true := by simp_all
    exact ⟨anchored.tail (.detach dangling), leave_dangling_ne_nil (layered_anchor layered) dangling,
      (Silent.leave layout _).naming.trans (Silent.anchor s).naming⟩
  · exact ⟨anchored, anchor_stack_ne_nil s, (Silent.anchor s).naming⟩

end Session

namespace Compile

open Session

theorem acts_statement {place : Place} {pass : Pass} {ahead? : Option (List Event)} (late : pass ≠ .required)
    (layered : Layered layout s.stack) (ran : statement layout ahead? place.triple s = (.ok (), s')) :
    ∃ sites, Acts layout t (∃ ahead, ahead? = some ahead ∧ Quiet ahead) s sites s' ∧
      sites.map Prod.snd = written [⟨place, pass, s.naming⟩] := by
  have writes := @Visit.writes_of_late ⟨place, pass, s.naming⟩ late
  rcases statement_ok ran with ⟨promoted, rfl⟩ | ⟨p, n, plain, -, placed⟩
  · exact ⟨[], .refl _, by simp [written, writes, promoted]⟩
  have named : Acts layout t (∃ ahead, ahead? = some ahead ∧ Quiet ahead) s [] { s with naming := n } :=
    .silent (.quiet rfl rfl rfl)
  rcases placed with ⟨required, rfl⟩ | ⟨lone, optional, looked, rfl⟩
  · have shut := Naming.isOpen_of_isOptional required
    exact ⟨_, named.trans (acts_settle _), by simp [written, writes, shut]⟩
  · have isOpen := Naming.isOpen_of_isOptional optional
    have listed : written [⟨place, pass, s.naming⟩] = [⟨place, pass, s.naming⟩] := by
      simp [written, writes, isOpen, plain]
    have ready := named.trans (acts_ready layered)
    obtain ⟨_, inside, among⟩ := @moves_ready layout { s with naming := n } layered
    generalize { s with naming := n }.ready layout = mid at looked ready inside among
    rw [listed]
    unfold Session.place
    split
    · -- No group is opened only for the one triple of an optional clause, and only a look ahead can tell.
      next only =>
      obtain ⟨rfl, inOptional⟩ := (Bool.and_eq_true _ _).mp only
      obtain ⟨first, ahead, same, quiet⟩ := quiet_of_look looked
      exact ⟨_, ready.tail (.lone p ⟨ahead, same, quiet⟩ inOptional first), rfl⟩
    · exact ⟨_, ready.tail (.alternative p inside late among), rfl⟩

/-- Triples visited one after the other. What holds of a pattern when it is written, and is kept by each later visit,
holds of all of them at the end. -/
theorem acts_forM {f : Triple → Compile Unit} {pass : Pass} (P : Site → Session → Prop)
    (each : ∀ (place : Place) (s s' : Session), Grounded layout s → f place.triple s = (.ok (), s') →
      s'.stack ≠ [] ∧ s'.naming = Visit.next ⟨place, pass, s.naming⟩ ∧
      ∃ sites, Acts layout t still s sites s' ∧ sites.map Prod.snd = written [⟨place, pass, s.naming⟩] ∧
        ∀ site ∈ sites, P site s')
    (keeps : ∀ (site : Site) (u : Triple) (s s' : Session), P site s → f u s = (.ok (), s') → P site s')
    (todo : List Place) (grounded : Grounded layout s) (ran : (todo.map Place.triple).forM f s = (.ok (), s')) :
    ∃ sites, Acts layout t still s sites s' ∧ sites.map Prod.snd = written (visitAll pass s.naming todo) ∧
      ∀ site ∈ sites, P site s' := by
  induction todo generalizing s with
  | nil => cases ran; exact ⟨[], .refl _, rfl, by simp⟩
  | cons place todo ih =>
    rw [List.map_cons] at ran
    obtain ⟨mid, first, others⟩ := forM_cons_ok ran
    obtain ⟨inside, naming, sites, acts, here, holds⟩ := each place s mid grounded first
    obtain ⟨more, later, there, held⟩ := ih ⟨acts.layered grounded.1, inside⟩ others
    refine ⟨sites ++ more, acts.trans later, ?_, ?_⟩
    · rw [List.map_append, here, there, naming, ← written_append]
      rfl
    · intro site member
      rcases List.mem_append.mp member with old | new
      · exact forM_keeps (fun u _ s s' => keeps site u s s') (holds site old) others
      · exact held site new

theorem acts_require {place : Place} (inside : s.stack ≠ []) (ran : require layout place.triple s = (.ok (), s')) :
    ∃ sites, Acts layout t still s sites s' ∧ sites.map Prod.snd = written [⟨place, .required, s.naming⟩] ∧
      ∀ site ∈ sites, s'.inUnion = false ∧ site.1 = (s'.traced t).opens := by
  rcases require_ok ran with ⟨optional, rfl⟩ | ⟨p, n, required, -, rfl⟩
  · have isOpen := Naming.isOpen_of_isOptional optional
    exact ⟨[], .refl _, by simp [written, Visit.writes, isOpen], by simp⟩
  · have shut := Naming.isOpen_of_isOptional required
    have named : Acts layout t still s [] { s with naming := n } := .silent (.quiet rfl rfl rfl)
    have joined : Act layout still { s with naming := n } [⟨place, .required, s.naming⟩]
        ({ s with naming := n }.join layout p) := .join p inside rfl
    exact ⟨_, named.tail joined, by simp [written, Visit.writes, shut], by simp [inUnion_join]⟩

theorem require_apart {u : Triple} (apart : s.inUnion = false) (ran : require layout u s = (.ok (), s')) :
    s'.inUnion = false ∧ (s'.traced t).opens = (s.traced t).opens := by
  rcases require_ok ran with ⟨-, rfl⟩ | ⟨p, n, -, -, rfl⟩
  · exact ⟨apart, rfl⟩
  · refine ⟨inUnion_join p _, ?_⟩
    have apart : ({ s with naming := n } : Session).inUnion = false := apart
    rw [join, if_neg (by simp [apart])]
    exact opens_pattern rfl

theorem acts_required {todo : List Place} (grounded : Grounded layout s)
    (ran : (todo.map Place.triple).forM (require layout) s = (.ok (), s')) :
    ∃ sites, Acts layout t still s sites s' ∧ sites.map Prod.snd = written (visitAll .required s.naming todo) ∧
      ∀ site ∈ sites, s'.inUnion = false ∧ site.1 = (s'.traced t).opens := by
  refine acts_forM (fun site s => s.inUnion = false ∧ site.1 = (s.traced t).opens) ?_ ?_ todo grounded ran
  · intro place s s' grounded ran
    exact ⟨(moves_require grounded ran).2, (records_require ran).naming, acts_require grounded.2 ran⟩
  · rintro site u s s' ⟨apart, same⟩ ran
    obtain ⟨apart, kept⟩ := require_apart apart ran
    exact ⟨apart, same.trans kept.symm⟩

theorem acts_forward {todo : List Place} (grounded : Grounded layout s)
    (ran : (todo.map Place.triple).forM (statement layout none) s = (.ok (), s')) :
    ∃ sites, Acts layout t still s sites s' ∧ sites.map Prod.snd = written (visitAll .forward s.naming todo) := by
  have late : Pass.forward ≠ .required := by decide
  obtain ⟨sites, acts, listed, -⟩ := acts_forM (t := t) (fun _ _ => True)
    (fun place s s' grounded ran => by
      obtain ⟨sites, acts, here⟩ := acts_statement (t := t) late grounded.1 ran
      exact ⟨(moves_forward grounded ran).2, (records_statement late ran).naming, sites,
        acts.mono (show _ → still by simp), here, by simp⟩)
    (fun _ _ _ _ _ _ => trivial) todo grounded ran
  exact ⟨sites, acts, listed⟩

theorem require_settled {u : Triple} (settled : s.dangling = true → s.first = true)
    (ran : require layout u s = (.ok (), s')) : s'.dangling = true → s'.first = true := by
  rcases require_ok ran with ⟨-, rfl⟩ | ⟨p, n, -, -, rfl⟩
  · exact settled
  · unfold join
    split
    · intro _; simp [write, emit, enter]
    · exact settled

theorem acts_room {subject : Term} {ahead : List Event} {lone : Bool} (grounded : Grounded layout s)
    (settled : s.dangling = true → s.first = true)
    (looked : (if !s.inUnion && s.chained subject then s.naming.alone ahead else .ok true) = .ok lone) :
    Acts layout t still s [] (if lone then s else s.enter layout .optional none) ∧
      (if lone then s else s.enter layout .optional none).stack ≠ [] := by
  cases lone with
  | true => exact ⟨.refl s, grounded.2⟩
  | false =>
    have apart := apart_of_room looked
    exact ⟨.silent (.optional grounded.2 (fun _ => apart) fun _ => settled), by simp [enter]⟩

/-- A subject that opens: what it leaves behind, its required triples, the room for its optional ones, and those of them
that are brought forward. -/
structure Opening (layout : Layout) (t : Trace) (node : Node) (ahead : List Event) (s : Session) (subject : Term)
    (outside joined : Session) (lone : Bool) (required forward : List Site) (s' : Session) : Prop where
  named : s.naming.resolve node none true = (.ok subject, outside.naming)
  inside : outside.stack ≠ []
  left : Acts layout t False s [] outside
  joins : (Ahead.ownTriples 0 ahead).forM (require layout) (outside.enter layout .block (some subject)) =
    (.ok (), joined)
  first : Acts layout t False (outside.enter layout .block (some subject)) required joined
  firstVisits : required.map Prod.snd = written (visitAll .required outside.naming (Ahead.ownPlaces 0 ahead))
  flat : ∀ site ∈ required, joined.inUnion = false ∧ site.1 = (joined.traced t).opens
  looked : (if !joined.inUnion && joined.chained subject then joined.naming.alone ahead else .ok true) = .ok lone
  room : Acts layout t False joined [] (if lone then joined else joined.enter layout .optional none)
  later : Acts layout t False (if lone then joined else joined.enter layout .optional none) forward s'
  laterVisits : forward.map Prod.snd = written (visitAll .forward joined.naming (Ahead.enclosingPlaces 0 none ahead))
  kept : s.stack ≠ [] → s.chained subject = true → outside.stack = s.stack ∧ outside.output = s.output

def Opens (layout : Layout) (t : Trace) (node : Node) (ahead : List Event) (s : Session) (sites : List Site)
    (s' : Session) : Prop :=
  ∃ subject outside joined lone required forward, sites = required ++ forward ∧
    Opening layout t node ahead s subject outside joined lone required forward s'

theorem opens_startSubject {node : Node} {ahead : List Event} (layered : Layered layout s.stack)
    (ran : startSubject layout node ahead s = (.ok (), s')) : ∃ sites, Opens layout t node ahead s sites s' := by
  obtain ⟨subject, n, joined, lone, found, first, looked, brought⟩ := startSubject_ok ran
  have resolved : Acts layout t False s [] { s with naming := n } := .silent (.quiet rfl rfl rfl)
  obtain ⟨left, filled, names⟩ : Acts layout t False { s with naming := n } [] _ ∧ _ := acts_outside subject layered
  have kept : s.stack ≠ [] → s.chained subject = true →
      ({ s with naming := n }.outside layout subject).stack = s.stack ∧
        ({ s with naming := n }.outside layout subject).output = s.output := by
    intro filled continues
    rw [@outside_of_chained layout { s with naming := n } subject filled continues]
    exact ⟨rfl, rfl⟩
  rw [openSubject_eq] at first
  generalize ({ s with naming := n } : Session).outside layout subject = outside at first left filled names kept
  -- The required triples, in the block of the subject.
  have inside : Grounded layout (outside.enter layout .block (some subject)) :=
    ⟨layered_enter (left.layered layered) filled (by simp), by simp [enter]⟩
  have listed := first
  rw [← Ahead.ownPlaces_triple] at listed
  obtain ⟨required, acts, here, flat⟩ : ∃ sites, Acts layout t False _ sites joined ∧ _ ∧ _ :=
    acts_required inside listed
  -- Then the room for the optional ones, and those of them that are brought forward.
  have settled : joined.dangling = true → joined.first = true :=
    forM_keeps (fun u _ s s' => require_settled) (by simp [dangling, enter]) first
  have grounded : Grounded layout joined :=
    ⟨acts.layered inside.1, (moves_forM (fun _ _ _ => moves_require) inside first).2⟩
  obtain ⟨made, roomFilled⟩ : Acts layout t False joined [] _ ∧ _ := acts_room grounded settled looked
  have cleared : Acts layout t False (if lone then joined else joined.enter layout .optional none) []
      { (if lone then joined else joined.enter layout .optional none) with previous := none } :=
    .silent (.quiet rfl rfl rfl)
  have roomGrounded := cleared.grounded ⟨made.layered grounded.1, roomFilled⟩
  rw [← Ahead.enclosingPlaces_triple] at brought
  obtain ⟨forward, later, there⟩ : ∃ sites, Acts layout t False _ sites s' ∧ _ :=
    acts_forward roomGrounded brought
  rw [(Silent.room layout lone joined).naming] at there
  exact ⟨required ++ forward, subject, outside, joined, lone, required, forward, rfl,
    { named := by rw [names]; exact found, inside := filled, left := resolved.trans left, joins := first, first := acts,
      firstVisits := here, flat, looked, room := made, later := cleared.trans later, laterVisits := there, kept }⟩

end Compile

end TemplateQuery
