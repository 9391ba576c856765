import TemplateQuery.Proofs.Clause.Joined

/-! A subject that an optional triple leads to stays in the alternative of that triple. The triple leaves its group open
with nothing else in it, the subject goes by the name that the triple gave it, and so the group stands under all that is
written up to the end of the subject. Main statement: `compile_keeps_linked`. -/

set_option autoImplicit false

namespace TemplateQuery

/-- Events that a compilation passes over: all but subjects, triples and the two ends of the document. -/
def Event.isPassed : Event → Bool
  | startDocument | endDocument | startSubject _ | endSubject _ | triple _ => false
  | _ => true

/-! ## The name that a triple gives to what it leads to -/

namespace Term

theorem role_ne_hole {t : Term} (resource : t.isLiteral = false) : t.role ≠ .hole := by
  cases t with
  | literal lexical tag => cases resource
  | reference relative resolved => cases name : referenceName? relative <;> simp [role, name]
  | _ => simp [role]

end Term

namespace Naming

variable {n n' : Naming} {node : Node} {u : Triple} {record : Bool}

theorem knows_of_resolve {t : Term} (resource : node.term.isLiteral = false)
    (found : n.resolve node (some u) record = (.ok t, n')) :
    n'.knows node.term = true ∧ n'.spelling node.term = .ok t := by
  rcases resolve_ok found with ⟨role, rfl, rfl⟩ | ⟨name, registry, wanted, asked, rfl, valid, rfl⟩
  · simp only [knows, spelling, role, and_self]
  · have accepted : Term.variable name = .ok (.var name) := if_pos valid
    simp only [knows, spelling, capture_registry]
    unfold asked? at asked
    cases role : node.term.role with
    | itself => simp only [role] at asked; cases asked
    | pinned _ | named _ => simp only [role] at asked; cases asked; exact ⟨rfl, accepted⟩
    | hole => exact absurd role (Term.role_ne_hole resource)
    | resource key =>
      simp only [role, Option.map_some] at asked
      cases named : n.registry.nameFor key (some (n.label node u)) with
      | error v => rw [named] at asked; cases asked
      | ok answer =>
        obtain ⟨name?, _⟩ := answer
        rw [named] at asked
        cases asked
        have given : name?.isSome = true := by
          rcases Registry.nameFor_ok named with ⟨-, -, labelled⟩ | ⟨_, _, _, -, -, -, rfl, -⟩
          · cases name? with
            | none => cases labelled rfl
            | some _ => rfl
          · rfl
        simp only [Registry.lookup_nameFor named, ↓reduceIte]
        exact ⟨given, accepted⟩

/-- The end that a triple leads to keeps the name it has in the pattern, also where the other end is named
after it. -/
theorem partner_pattern {p : Pattern} (resource : u.partner.term.isLiteral = false)
    (found : n.pattern u = (.ok p, n')) :
    n'.knows u.partner.term = true ∧ n'.spelling u.partner.term = .ok p.partner := by
  obtain ⟨subject, mid, object, first, second, rfl⟩ := pattern_ok found
  unfold Triple.partner at resource ⊢
  unfold Pattern.partner
  cases inverse : u.inverse with
  | false =>
    simp only [inverse, Bool.false_eq_true, ↓reduceIte] at resource ⊢
    exact knows_of_resolve resource second
  | true =>
    simp only [inverse, ↓reduceIte] at resource ⊢
    obtain ⟨known, spelt⟩ := knows_of_resolve resource first
    have later : mid.Extends n' := by simpa [second] using extends_resolve mid u.object (some u) true
    obtain ⟨still, same⟩ := later.knows known
    exact ⟨still, same.trans spelt⟩

end Naming

/-! ## The group that a triple leaves open -/

variable {layout : Layout} {base : List Nat} {t t' : Trace} {s s' : Session} {u : Triple} {node : Node}
  {ahead rest : List Event}

theorem not_quiet_of_start {between : List Event} (passed : ∀ e ∈ between, e.isPassed = true) :
    ¬ Quiet (between ++ Event.startSubject node :: rest) := by
  induction between with
  | nil => exact id
  | cons e between ih =>
    have later := ih fun d member => passed d (List.mem_cons_of_mem e member)
    have here := passed e List.mem_cons_self
    cases e with
    | startSubject _ | endSubject _ | triple _ => cases here
    | _ => exact later

theorem Compile.statement_links (isOpen : u.isOpen = true)
    (resources : u.subject.term.isLiteral = false ∧ u.object.term.isLiteral = false) (noisy : ¬ Quiet ahead)
    (layered : Layered layout s.stack) (ran : statement layout (some ahead) u s = (.ok (), s')) :
    ∃ mid p, Acts layout t False s [] mid ∧
      s' = { (mid.enter layout .group none).write p with first := false } ∧
      s'.naming.knows u.partner.term = true ∧ s'.naming.spelling u.partner.term = .ok p.partner := by
  have partner : u.partner.term.isLiteral = false := by
    unfold Triple.partner
    split
    · exact resources.1
    · exact resources.2
  rcases statement_ok ran with ⟨promoted, rfl⟩ | ⟨p, n, -, found, ⟨required, rfl⟩ | ⟨lone, -, looked, rfl⟩⟩
  · simp [Naming.isPromoted, resources.2] at promoted
  · cases isOpen.symm.trans (Naming.isOpen_of_isOptional required)
  have named : Acts layout t False s [] { s with naming := n } := .silent (.quiet rfl rfl rfl)
  have ready : Acts layout t False s [] ({ s with naming := n }.ready layout) :=
    named.trans (Session.acts_ready layered)
  -- The subject that follows is what a look ahead finds, so the triple is not taken for the only one.
  have several : lone = false := by
    cases lone with
    | false => rfl
    | true =>
      obtain ⟨-, _, ⟨⟩, quiet⟩ := quiet_of_look looked
      exact absurd quiet noisy
  refine ⟨_, p, ready, by simp [Session.place, several], ?_⟩
  rw [(Writes.place layout lone p _).naming, (Silent.ready layout _).naming]
  exact Naming.partner_pattern partner found

theorem Turn.links {sites : List Site} (turn : Turn layout t ahead s (.triple u) sites s') (isOpen : u.isOpen = true)
    (resources : u.subject.term.isLiteral = false ∧ u.object.term.isLiteral = false) (noisy : ¬ Quiet ahead)
    (steady : Steady layout base t s) :
    ∃ bracket outer visit p, sites = [(bracket :: outer, visit)] ∧ visit.place = ⟨ahead.length, u⟩ ∧
      (∀ site ∈ (s.traced t).sites, bracket ∉ site) ∧ (s'.traced t).opens = bracket :: outer ∧
      s'.stack ≠ [] ∧ s'.previous = some p ∧
      s'.naming.knows u.partner.term = true ∧ s'.naming.spelling u.partner.term = .ok p.partner := by
  have placed := turn.sites_eq
  cases turn with
  | passes _ _ noTriple => exact absurd rfl (noTriple u)
  | meets _ visit ran =>
    obtain ⟨mid, p, acts, rfl, known, spelt⟩ :=
      Compile.statement_links (t := t) isOpen resources noisy steady.layered ran
    obtain ⟨new, opens, count, beyond⟩ := @Session.opens_enter layout mid t .group none
    obtain ⟨bracket, rfl⟩ : ∃ k, new = [k] := List.length_eq_one_iff.mp (by simpa [Clause.bracket?] using count)
    have around : (({ (mid.enter layout .group none).write p with first := false } : Session).traced t).opens =
        bracket :: (mid.traced t).opens := (Session.opens_pattern rfl).trans opens
    have before : (mid.traced t).sites = (s.traced t).sites := by simpa using acts.sites_eq
    have written : sites.map Prod.fst = [bracket :: (mid.traced t).opens] := by
      rw [Session.sites_pattern (s := mid.enter layout .group none) rfl, Session.sites_enter, before, opens] at placed
      exact (List.append_cancel_left placed).symm
    obtain ⟨⟨_, visited⟩, rfl, rfl⟩ := List.map_eq_singleton_iff.mp written
    have place : visited = _ := visit_of_met visit (List.mem_singleton_self _)
    refine ⟨bracket, _, visited, p, rfl, by rw [place], fun site early among => ?_, around,
      by simp [Session.write, Session.emit, Session.enter], rfl, known, spelt⟩
    have old := (steady.acts acts).sane.sites site (before ▸ early) bracket among
    have late := beyond bracket List.mem_cons_self
    omega

/-! ## The subject that follows -/

theorem Course.passed {events : List Event} {sites : List Site} (course : Course layout rest t s events sites t' s')
    (passed : ∀ e ∈ events, e.isPassed = true) :
    sites = [] ∧ t' = t ∧ ({ s' with output := [] } : Session) = { s with output := [] } := by
  induction course with
  | nil => exact ⟨rfl, rfl, rfl⟩
  | @cons _ _ _ _ _ e _ _ _ turn later ih =>
    have here := passed e List.mem_cons_self
    obtain ⟨none, read, same⟩ := ih fun d member => passed d (List.mem_cons_of_mem e member)
    cases turn with
    | opens | meets | closes => cases here
    | passes => exact ⟨none, read, same⟩

theorem Compile.Opens.within {opened within : List Site} {middle : Session} {inside tail : List Event} {deeper : Nat}
    {p : Pattern} (opens : Compile.Opens layout t node ahead s opened middle) (filled : s.stack ≠ [])
    (previous : s.previous = some p) (known : s.naming.knows node.term = true)
    (spelt : s.naming.spelling node.term = .ok p.partner)
    (course : Course layout tail (middle.traced t) middle inside within t' s')
    (levels : Ahead.level 0 inside = some deeper) : ∀ y ∈ opened ++ within, (s.traced t).opens <:+ y.1 := by
  obtain ⟨subject, outside, joined, lone, required, forward, rfl, opening⟩ := opens
  have same : subject = p.partner := by
    have alone : (s.naming.resolve node none true).1 = _ := Naming.resolve_of_knows known
    rw [opening.named, spelt] at alone
    exact Except.ok.inj alone
  have continues : s.chained subject = true := by simp [Session.chained, previous, same, Term.same_refl]
  obtain ⟨stack, output⟩ := opening.kept filled continues
  -- The block of the subject is the floor: it has no bracket, and nothing but the end of the subject takes it away.
  obtain ⟨new, around, width, -⟩ := @Session.opens_enter layout outside t .block (some subject)
  obtain rfl : new = [] := List.length_eq_zero_iff.mp width
  have start : ((outside.enter layout .block (some subject)).traced t).opens = (s.traced t).opens := by
    rw [around, Session.traced, output]
    rfl
  have floor : Over layout (outside.enter layout .block (some subject)).stack (s.traced t).opens 0 t
      (outside.enter layout .block (some subject)) := ⟨[], ⟨rfl, [], start, rfl⟩, rfl⟩
  have solid : Clause.block ≠ .group := by decide
  have acts := (opening.first.trans opening.room).trans opening.later
  rw [List.append_nil] at acts
  obtain ⟨held, written⟩ := floor.acts solid acts
  intro y member
  rcases List.mem_append.mp member with early | late
  · exact written y early
  · exact Over.course solid course levels held.flush y late

/-! ## Where the triple itself is written -/

theorem Course.le_after_of_resources {events : List Event} {sites : List Site}
    (course : Course layout rest t s events sites t' s') {site : Site} (member : site ∈ sites)
    (isOpen : site.2.place.triple.isOpen = true) (resource : site.2.place.triple.object.term.isLiteral = false) :
    rest.length ≤ site.2.place.after := by
  induction course with
  | nil => cases member
  | cons turn later ih =>
    rcases List.mem_append.mp member with here | there
    · cases turn with
      | opens opens =>
        obtain ⟨visited, writes⟩ := visited_of_mem opens.visits here
        rcases List.mem_append.mp visited with required | forward
        · simp [Visit.writes, (place_mem_of_visitAll required).2, isOpen] at writes
        · have literal := (Ahead.literal_of_enclosing (place_mem_of_visitAll forward).1).1
          simp [resource] at literal
      | meets acts visit =>
        rw [visit_of_met visit here]
        simp
      | closes => cases here
      | passes => cases here
    · exact ih there

/-! ## The triple and the subject together -/

open Compile

/-- Between resources an optional triple, followed by the subject it leads to, is written into a pair of brackets before
anything else, once and nowhere else, and all that is written for the subject and what is nested in it stands in the
same pair. -/
theorem compile_keeps_linked {front between rest out : List Event} {u : Triple} {node : Node}
    (inner : ∀ e ∈ front ++ .triple u :: between ++ .startSubject node :: rest, e ≠ .startDocument ∧ e ≠ .endDocument)
    (compiled : compile layout ([.startDocument] ++ (front ++ .triple u :: between ++ .startSubject node :: rest) ++
      [.endDocument]) = .ok out)
    (isOpen : u.isOpen = true) (resources : u.subject.term.isLiteral = false ∧ u.object.term.isLiteral = false)
    (passed : ∀ e ∈ between, e.isPassed = true) (linked : node.term = u.partner.term) :
    let document := [.startDocument] ++ (front ++ .triple u :: between ++ .startSubject node :: rest) ++ [.endDocument]
    let link : Place := ⟨(between ++ .startSubject node :: (rest ++ [.endDocument]) : List Event).length, u⟩
    (patterns out).map Except.ok = (sited document out).map (·.2.outcome) ∧
      ∃ before visit after bracket outer,
        sited document out = before ++ (bracket :: outer, visit) :: after ∧ visit.place = link ∧
        (∀ y ∈ before ++ after, y.2.place ≠ link) ∧ (∀ y ∈ before, bracket ∉ y.1) ∧
        ∀ y ∈ sited document out, y.2.place ∈ Ahead.innerPlaces 0 (rest ++ [.endDocument]) →
          bracket :: outer <:+ y.1 := by
  intro document link
  refine ⟨outcome_sited compiled, ?_⟩
  obtain ⟨opening, _, start, _, _, course, bare, plain, -⟩ := course_of_compile inner compiled
  obtain ⟨t₀, s₀, before, opened, middle, inside, within, t₁, s₁, tail, deeper, after, all, first, opens, second, cut,
    levels, elsewhere, behind, -⟩ := course.stretch
  obtain ⟨t, s, early, _, ahead, later, rfl⟩ := first.append
  have steady := (Steady.start bare plain).course ahead
  cases later with
  | @cons _ _ _ s₂ _ _ _ sites more turn between =>
    obtain ⟨rfl, rfl, same⟩ := between.passed passed
    obtain ⟨bracket, outer, visit, p, rfl, place, fresh, around, filled, previous, known, spelt⟩ :=
      turn.links isOpen resources (not_quiet_of_start passed) steady
    rw [same] at opens
    have content := opens.within filled previous (linked ▸ known) (linked ▸ spelt) second levels
    refine ⟨early, visit, opened ++ within ++ after, bracket, outer, by rw [all]; simp, place, ?_, ?_, ?_⟩
    · -- Between resources nothing is brought forward, so the triple is met in its place alone.
      intro y member at_link
      rcases List.mem_append.mp member with earlier | later
      · have met := ahead.le_after_of_resources earlier (by rwa [at_link]) (by rw [at_link]; exact resources.2)
        simp only [at_link, link, List.length_append, List.length_cons] at met
        omega
      · have near := behind y later
        simp only [at_link, link, List.length_append, List.length_cons] at near
        omega
    · intro y earlier
      apply fresh
      rw [Session.traced, Trace.readAll_nil, ahead.sites_eq]
      exact List.mem_append_right _ (List.mem_map_of_mem earlier)
    · intro y member inner
      have mine : y ∈ opened ++ within := by
        by_contra outside
        refine elsewhere y ?_ inner
        rw [all] at member
        simp only [List.mem_append] at member outside ⊢
        tauto
      have inBracket := content y mine
      rwa [Session.traced, Trace.readAll_nil, around] at inBracket

/-- What is said about the author of a page, who has no name of their own: an address, and a friend with a name. -/
def authorship (author : Node) : List Event :=
  let friend : Node := { term := .blank "friend" }
  let property (s : Node) (predicate : String) (o : Node) : Event := .triple ⟨s, { term := .iri predicate }, o, false⟩
  [property author "p:type" { term := .iri "p:Person" }, property author "p:address" { term := .plain "?address" },
    property author "p:knows" friend, .startSubject friend, property friend "p:name" { term := .plain "?name" },
    .endSubject friend, .endSubject author, property { term := .iri "p:page" } "p:title" { term := .plain "?title" },
    .endSubject { term := .iri "p:page" }]

/-- A page and its author, who is the subject of the triple between them. The author stays in the bracket of that triple
with the address, the friend and the name of the friend. The title of the page is outside. -/
theorem compile_keeps_linked_authorship :
    let page : Node := { term := .iri "p:page" }
    let author : Node := { term := .blank "author" }
    let link : Triple := ⟨author, { term := .iri "p:wrote" }, page, true⟩
    let document := [.startDocument] ++ ([.startSubject page] ++ .triple link :: [.comment "the author"] ++
      .startSubject author :: authorship author) ++ [.endDocument]
    let around (layout : Layout) := (compile layout document).map fun out => (trace out).sites
    around {} = .ok [[4, 2], [4, 2], [9, 8, 4, 2], [13, 8, 4, 2], [16, 13, 8, 4, 2], [25, 2]] ∧
    ∃ out before visit after bracket outer, compile {} document = .ok out ∧
      sited document out = before ++ (bracket :: outer, visit) :: after ∧ (∀ y ∈ before, bracket ∉ y.1) ∧
      ∀ y ∈ sited document out, y.2.place ∈ Ahead.innerPlaces 0 (authorship author ++ [.endDocument]) →
        bracket :: outer <:+ y.1 := by
  intro page author link document around
  have nested : around {} =
      .ok [[4, 2], [4, 2], [9, 8, 4, 2], [13, 8, 4, 2], [16, 13, 8, 4, 2], [25, 2]] := by decide +kernel
  refine ⟨nested, ?_⟩
  cases compiled : compile {} document with
  | error v => simp only [around, compiled] at nested; cases nested
  | ok out =>
    obtain ⟨-, before, visit, after, bracket, outer, split, -, -, first, all⟩ :=
      compile_keeps_linked (by decide) compiled (by decide) (by decide) (by decide) rfl
    exact ⟨out, before, visit, after, bracket, outer, rfl, split, first, all⟩

end TemplateQuery
