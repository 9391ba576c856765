import TemplateQuery.Proofs.Clause.Lockstep
import TemplateQuery.Proofs.Clause.Steady

/-! Required triples are joined with all that their subject holds. They are written first, all in the same brackets, and
everything else of the subject inside these. The one condition is that the subject goes by the same term when it opens
and in its triples: a blank node without a name and a literal to be filled in do not. Main statement:
`compile_joins_required`. -/

set_option autoImplicit false

namespace TemplateQuery

/-! ## The term of a subject in its triples -/

namespace Naming

/-- Whether the names given so far settle what a term stands for. A literal to be filled in stands for something new
each time. -/
def knows (n : Naming) (t : Term) : Bool :=
  match t.role with
  | .hole => false
  | .resource key => (n.registry.lookup key).isSome
  | _ => true

def Extends (n n' : Naming) : Prop :=
  ∀ key name, n.registry.lookup key = some name → n'.registry.lookup key = some name

variable {n n' : Naming} {node : Node} {triple? : Option Triple} {record : Bool}

theorem resolve_of_knows (known : n.knows node.term = true) :
    (n.resolve node triple? record).1 = n.spelling node.term := by
  unfold knows at known
  unfold resolve asked? spelling
  cases role : node.term.role with
  | hole => simp [role] at known
  | resource key =>
    rw [role] at known
    obtain ⟨name, found⟩ := Option.isSome_iff_exists.mp known
    simp only [Registry.nameFor_of_lookup found, found, Except.map]
  | itself | pinned name | named name => rfl

theorem extends_resolve (n : Naming) (node : Node) (triple? : Option Triple) (record : Bool) :
    n.Extends (n.resolve node triple? record).2 := by
  intro key name found
  unfold resolve
  split
  · exact found
  · exact found
  · next asked =>
    rw [capture_registry]
    exact lookup_of_asked? asked found

theorem Extends.trans {m : Naming} (first : n.Extends m) (later : m.Extends n') : n.Extends n' :=
  fun key name found => later key name (first key name found)

theorem Extends.knows {t : Term} (extended : n.Extends n') (known : n.knows t = true) :
    n'.knows t = true ∧ n'.spelling t = n.spelling t := by
  unfold Naming.knows at known ⊢
  unfold spelling
  cases role : t.role with
  | hole => simp [role] at known
  | resource key =>
    rw [role] at known
    obtain ⟨name, found⟩ := Option.isSome_iff_exists.mp known
    simp [extended key name found, found]
  | itself | pinned name | named name => exact ⟨rfl, rfl⟩

theorem about_pattern {u : Triple} {p : Pattern} (known : n.knows u.about.term = true)
    (found : n.pattern u = (.ok p, n')) :
    n.Extends n' ∧ n.spelling u.about.term = .ok p.about ∧ p.partner.isVar = u.isOpen := by
  obtain ⟨subject, mid, object, first, second, rfl⟩ := pattern_ok found
  have before : n.Extends mid := by simpa [first] using extends_resolve n u.subject (some u) true
  have after : mid.Extends n' := by simpa [second] using extends_resolve mid u.object (some u) true
  refine ⟨before.trans after, ?_⟩
  have firstTerm : (n.resolve u.subject (some u) true).1 = .ok subject := by rw [first]
  have secondTerm : (mid.resolve u.object (some u) true).1 = .ok object := by rw [second]
  unfold Triple.isOpen
  unfold Triple.about at known ⊢
  unfold Triple.partner Pattern.about Pattern.partner
  cases inverse : u.inverse with
  | false =>
    simp only [inverse, Bool.false_eq_true, ↓reduceIte] at known ⊢
    exact ⟨(resolve_of_knows known).symm.trans firstTerm, isVar_of_resolve secondTerm⟩
  | true =>
    simp only [inverse, ↓reduceIte] at known ⊢
    obtain ⟨still, same⟩ := before.knows known
    exact ⟨same.symm.trans ((resolve_of_knows still).symm.trans secondTerm), isVar_of_resolve firstTerm⟩

end Naming

theorem Term.same_refl (t : Term) : t.same t = true := by
  cases t <;> simp [Term.same, Term.iri?]

namespace Compile

variable {layout : Layout} {s s' : Session} {n : Naming} {node : Node} {subject : Term}

theorem require_leads {u : Triple} (known : n.knows node.term = true) (spelt : n.spelling node.term = .ok subject)
    (about : u.isOpen = false → u.about.term = node.term) (extended : n.Extends s.naming)
    (ran : require layout u s = (.ok (), s')) :
    n.Extends s'.naming ∧ (u.isOpen = false ∨ s.inUnion = false ∧ s.chained subject = true →
      s'.inUnion = false ∧ s'.chained subject = true) := by
  rcases require_ok ran with ⟨optional, rfl⟩ | ⟨p, m, required, resolved, rfl⟩
  · refine ⟨extended, ?_⟩
    rintro (fixed | leads)
    · cases fixed.symm.trans (Naming.isOpen_of_isOptional optional)
    · exact leads
  · have fixed := Naming.isOpen_of_isOptional required
    obtain ⟨still, same⟩ := extended.knows known
    rw [← about fixed] at still same spelt
    obtain ⟨grown, term, isVar⟩ := Naming.about_pattern still resolved
    have partner : p.partner.isVar = false := isVar.trans fixed
    have found : p.about = subject := Except.ok.inj (term.symm.trans (same.trans spelt))
    refine ⟨?_, fun _ => ⟨Session.inUnion_join p _, ?_⟩⟩
    · rw [(Writes.join layout p _).naming]
      exact extended.trans grown
    · simp [Session.chained, Session.previous_join, found, partner, Term.same_refl]

theorem forM_require_leads {us : List Triple} (known : n.knows node.term = true)
    (spelt : n.spelling node.term = .ok subject) (about : ∀ u ∈ us, u.isOpen = false → u.about.term = node.term)
    (extended : n.Extends s.naming) (fixed : ∃ u ∈ us, u.isOpen = false)
    (ran : us.forM (require layout) s = (.ok (), s')) : s'.inUnion = false ∧ s'.chained subject = true := by
  induction us generalizing s with
  | nil => obtain ⟨u, member, _⟩ := fixed; cases member
  | cons u us ih =>
    obtain ⟨mid, first, others⟩ := forM_cons_ok ran
    obtain ⟨grown, leads⟩ := require_leads known spelt (about u List.mem_cons_self) extended first
    have rest : ∀ w ∈ us, w.isOpen = false → w.about.term = node.term :=
      fun w member => about w (List.mem_cons_of_mem u member)
    cases isOpen : u.isOpen with
    | true =>
      obtain ⟨w, member, closed⟩ := fixed
      rcases List.mem_cons.mp member with rfl | later
      · simp [isOpen] at closed
      · exact ih rest grown ⟨w, later, closed⟩ others
    | false =>
      -- Once one is written, each later one leads to the subject again or changes nothing.
      have start : n.Extends mid.naming ∧ mid.inUnion = false ∧ mid.chained subject = true :=
        ⟨grown, leads (.inl isOpen)⟩
      have all := forM_keeps (P := fun s => n.Extends s.naming ∧ s.inUnion = false ∧ s.chained subject = true)
        (fun w member s s' held ran => by
          obtain ⟨grown, leads⟩ := require_leads known spelt (rest w member) held.1 ran
          exact ⟨grown, leads (.inr held.2)⟩) start others
      exact all.2

end Compile

/-! ## What a subject writes after its required triples -/

theorem Quiet.isOpen_of_mem {ahead : List Event} {place : Place} (quiet : Quiet ahead)
    (member : place ∈ Ahead.ownPlaces 0 ahead) : place.triple.isOpen = false := by
  induction ahead with
  | nil => cases member
  | cons e rest ih =>
    cases e with
    | startSubject node => exact absurd quiet id
    | endSubject node => cases member
    | triple u =>
      rcases List.mem_cons.mp member with rfl | later
      · exact quiet.1
      · exact ih quiet.2 later
    | _ => exact ih quiet (by simpa [Ahead.ownPlaces] using member)

theorem Course.quiet {layout : Layout} {rest events : List Event} {t t' : Trace} {s s' : Session} {sites : List Site}
    {deeper : Nat} (course : Course layout rest t s events sites t' s') (levels : Ahead.level 0 events = some deeper)
    (quiet : Quiet (events ++ rest)) : sites = [] := by
  induction course with
  | nil => rfl
  | cons turn _ ih =>
    cases turn with
    | opens => exact absurd quiet id
    | meets _ visit =>
      obtain ⟨fixed, quiet⟩ := quiet
      simp only [written, Visit.writes, fixed, Bool.false_and, List.filter_cons, Bool.false_eq_true, ↓reduceIte,
        List.filter_nil, List.map_eq_nil_iff] at visit
      rw [visit, ih (by simpa [Ahead.level] using levels) quiet]
      rfl
    | closes => cases levels
    | passes noStart noEnd noTriple =>
      rw [Ahead.level_other noStart noEnd] at levels
      exact ih levels (by rwa [List.cons_append, Quiet] at quiet <;> assumption)

theorem exists_first_required (n : Naming) {todo : List Place} (some : ∃ place ∈ todo, place.isRequired = true) :
    ∃ v ∈ written (visitAll .required n todo), v.known = n := by
  induction todo with
  | nil => obtain ⟨place, member, _⟩ := some; cases member
  | cons place todo ih =>
    cases isRequired : place.isRequired with
    | true =>
      refine ⟨⟨place, .required, n⟩, List.mem_filter.mpr ⟨List.mem_cons_self, ?_⟩, rfl⟩
      simpa [Visit.writes, Place.isRequired] using isRequired
    | false =>
      obtain ⟨other, member, required⟩ := some
      rcases List.mem_cons.mp member with rfl | later
      · simp [isRequired] at required
      · obtain ⟨v, written, same⟩ := ih ⟨other, later, required⟩
        have next : Visit.next ⟨place, .required, n⟩ = n := by
          have isOpen : place.triple.isOpen = true := by simpa [Place.isRequired] using isRequired
          simp [Visit.next, Visit.resolves, isOpen]
        refine ⟨v, ?_, same⟩
        obtain ⟨among, writes⟩ := List.mem_filter.mp written
        refine List.mem_filter.mpr ⟨List.mem_cons_of_mem _ ?_, writes⟩
        rwa [next]

section Subject

variable {layout : Layout} {ahead inside tail : List Event} {base : List Nat} {t t' : Trace}
  {s s' middle joined : Session}
  {node : Node} {forward within : List Site} {deeper : Nat} {lone : Bool}

theorem rest_encloses (looked : joined.naming.alone ahead = .ok lone)
    (later : Acts layout t False (if lone then joined else joined.enter layout .optional none) forward middle)
    (laterVisits : forward.map Prod.snd =
      written (visitAll .forward joined.naming (Ahead.enclosingPlaces 0 none ahead)))
    (course : Course layout tail (middle.traced t) middle inside within t' s') (cut : ahead = inside ++ tail)
    (levels : Ahead.level 0 inside = some deeper) : ∀ x ∈ forward ++ within, (joined.traced t).opens <:+ x.1 := by
  cases lone with
  | true =>
    have quiet := Naming.quiet_of_alone looked
    have unwritten : forward = [] := by
      refine List.eq_nil_iff_forall_not_mem.mpr fun x member => ?_
      obtain ⟨visited, writes⟩ := visited_of_mem laterVisits member
      obtain ⟨place, pass⟩ := place_mem_of_visitAll visited
      have fixed := quiet.isOpen_of_mem ((Ahead.enclosingPlaces_sublist _ _ _).subset place)
      simp [Visit.writes, pass, fixed] at writes
    rw [cut] at quiet
    simp [unwritten, course.quiet levels quiet]
  | false =>
    -- The optional clause that opens here is the floor of all that follows.
    obtain ⟨new, opened, -⟩ := @Session.opens_enter layout joined t .optional none
    have floor : Over layout (joined.enter layout .optional none).stack
        ((joined.enter layout .optional none).traced t).opens 0 t (joined.enter layout .optional none) :=
      ⟨[], ⟨rfl, [], rfl, rfl⟩, rfl⟩
    have solid : Clause.optional ≠ .group := by decide
    obtain ⟨held, first⟩ := floor.acts solid later
    have around : (joined.traced t).opens <:+ ((joined.enter layout .optional none).traced t).opens :=
      ⟨new, opened.symm⟩
    intro x member
    rcases List.mem_append.mp member with early | late
    · exact around.trans (first x early)
    · exact around.trans (Over.course solid course levels held.flush x late)

theorem Compile.Opens.encloses {opened : List Site} (opens : Compile.Opens layout t node ahead s opened middle)
    (steady : Steady layout base t s)
    (about : ∀ u ∈ Ahead.ownTriples 0 ahead, u.isOpen = false → u.about.term = node.term)
    (fixed : ∃ place ∈ Ahead.ownPlaces 0 ahead, place.isRequired = true)
    (known : ∀ x ∈ opened, x.2.place.isRequired = true → x.2.known.knows node.term = true)
    (course : Course layout tail (middle.traced t) middle inside within t' s') (cut : ahead = inside ++ tail)
    (levels : Ahead.level 0 inside = some deeper) :
    ∃ required forward joined, opened = required ++ forward ∧ Steady layout base t joined ∧ joined.stack ≠ [] ∧
      joined.inUnion = false ∧ (∀ x ∈ required, x.2.place.isRequired = true ∧ x.1 = (joined.traced t).opens) ∧
      (∀ x ∈ forward, x.2.place.isRequired = false) ∧ ∀ x ∈ forward ++ within, (joined.traced t).opens <:+ x.1 := by
  obtain ⟨subject, outside, joined, lone, required, forward, rfl, opening⟩ := opens
  have block := (steady.acts opening.left).block opening.inside subject
  have isRequired : ∀ x ∈ required, x.2.place.isRequired = true := by
    intro x member
    obtain ⟨visited, writes⟩ := visited_of_mem opening.firstVisits member
    simpa [Visit.writes, (place_mem_of_visitAll visited).2, Place.isRequired] using writes
  -- The first required triple is visited with the names that were known outside.
  have knows : outside.naming.knows node.term = true := by
    obtain ⟨v, member, same⟩ := exists_first_required outside.naming fixed
    rw [← opening.firstVisits] at member
    obtain ⟨x, among, rfl⟩ := List.mem_map.mp member
    rw [← same]
    exact known x (List.mem_append_left _ among) (isRequired x among)
  have spelt : outside.naming.spelling node.term = .ok subject := by
    have alone := s.naming.resolve_alone node true
    have same := s.naming.registry_resolve_alone node true
    rw [opening.named] at alone same
    exact (Naming.spelling_congr same node.term).trans alone.symm
  obtain ⟨apart, chained⟩ : joined.inUnion = false ∧ joined.chained subject = true := by
    have start : outside.naming.Extends (outside.enter layout .block (some subject)).naming := fun _ _ found => found
    refine forM_require_leads knows spelt about start ?_ opening.joins
    obtain ⟨place, own, required⟩ := fixed
    refine ⟨place.triple, ?_, by simpa [Place.isRequired] using required⟩
    rw [← Ahead.ownPlaces_triple]
    exact List.mem_map_of_mem own
  have looked := opening.looked
  simp only [apart, chained, Bool.not_false, Bool.and_self, ↓reduceIte] at looked
  refine ⟨required, forward, joined, rfl, block.acts opening.first,
    (opening.first.grounded ⟨block.layered, by simp [Session.enter]⟩).2, apart,
    fun x member => ⟨isRequired x member, (opening.flat x member).2⟩, ?_,
    rest_encloses looked opening.later opening.laterVisits course cut levels⟩
  intro x member
  obtain ⟨visited, writes⟩ := visited_of_mem opening.laterVisits member
  exact isRequired_of_writes (by simp [(place_mem_of_visitAll visited).2]) writes

end Subject

section Document

variable {layout : Layout} {front rest out : List Event} {node : Node}

/-- In a query with unions, the required triples of a subject come before all else of it. They stand right in one
bracket, and all that is written for the subject and for those nested in it stands inside that bracket. -/
theorem compile_joins_required (form : layout.unionForm = true)
    (inner : ∀ e ∈ front ++ .startSubject node :: rest, e ≠ .startDocument ∧ e ≠ .endDocument)
    (compiled : compile layout ([.startDocument] ++ (front ++ .startSubject node :: rest) ++ [.endDocument]) =
      .ok out) :
    let document := [.startDocument] ++ (front ++ .startSubject node :: rest) ++ [.endDocument]
    let ahead := rest ++ [.endDocument]
    let required (x : Site) := x.2.place ∈ Ahead.ownPlaces 0 ahead ∧ x.2.place.isRequired = true
    let content (x : Site) := x.2.place ∈ Ahead.innerPlaces 0 ahead
    (∀ u ∈ Ahead.ownTriples 0 ahead, u.isOpen = false → u.about.term = node.term) →
    (∃ place ∈ Ahead.ownPlaces 0 ahead, place.isRequired = true) →
    (∀ x ∈ sited document out, required x → x.2.known.knows node.term = true) →
    (patterns out).map Except.ok = (sited document out).map (·.2.outcome) ∧
    (∀ x y, [x, y].Sublist (sited document out) → content x → required y → required x) ∧
    ∃ bracket outer, ∀ x ∈ sited document out, content x →
      bracket :: outer <:+ x.1 ∧ (required x → x.1 = bracket :: outer) := by
  intro document ahead required content about fixed known
  obtain ⟨base, t, s, before, opened, middle, inside, within, t', s', tail, deeper, after, all, steady, opens, course,
    cut, levels, elsewhere, -⟩ := exists_stretch inner compiled
  have own : ∀ x ∈ opened, x.2.place ∈ Ahead.ownPlaces 0 ahead := fun x member => opens.place_mem member
  obtain ⟨first, forward, joined, rfl, steady, filled, apart, flat, late, rest⟩ :=
    opens.encloses steady about fixed (fun x member isRequired =>
      known x (by rw [all]; simp [member]) ⟨own x member, isRequired⟩) course cut levels
  -- What is not among the first is not required: it is brought forward, or met in its place.
  have others : ∀ x ∈ forward ++ within, ¬ required x := by
    rintro x member ⟨mine, isRequired⟩
    rcases List.mem_append.mp member with early | late'
    · simp [late x early] at isRequired
    · have met := course.pass_of_own levels late' (cut ▸ mine)
      simp [isRequired_of_writes (by simp [met]) (course.writes_of_mem late')] at isRequired
  have placed : ∀ x ∈ sited document out, content x → x ∈ first ∨ x ∈ forward ++ within := by
    intro x member inside
    rw [all] at member
    have := elsewhere x
    simp only [List.mem_append] at member this ⊢
    tauto
  have mine : ∀ {x : Site}, required x → content x :=
    fun required => (Ahead.ownPlaces_sublist 0 ahead).subset required.1
  refine ⟨outcome_sited compiled, ?_, ?_⟩
  · intro x y order inside isRequired
    by_contra optional
    have late : x ∉ before ++ first := by
      intro member
      rcases List.mem_append.mp member with early | among
      · exact elsewhere x (List.mem_append_left _ early) inside
      · exact optional ⟨own x (List.mem_append_left _ among), (flat x among).1⟩
    have split : sited document out = (before ++ first) ++ (forward ++ within ++ after) := by rw [all]; simp
    rw [split, List.sublist_append_iff] at order
    obtain ⟨front, back, same, one, two⟩ := order
    cases front with
    | cons z front =>
      obtain ⟨rfl, -⟩ := List.cons.inj same
      exact late (one.subset List.mem_cons_self)
    | nil =>
      rw [List.nil_append] at same
      rw [← same] at two
      rcases List.mem_append.mp (two.subset (List.mem_cons_of_mem x List.mem_cons_self)) with here | there
      · exact others y here isRequired
      · exact elsewhere y (List.mem_append_right _ there) (mine isRequired)
  · obtain ⟨bracket, outer, around⟩ := List.exists_cons_of_ne_nil (steady.opens_ne_nil form filled apart)
    refine ⟨bracket, outer, fun x member inside => ?_⟩
    rw [← around]
    rcases placed x member inside with early | later
    · exact ⟨⟨[], (flat x early).2.symm⟩, fun _ => (flat x early).2⟩
    · exact ⟨rest x later, fun isRequired => absurd isRequired (others x later)⟩

end Document

/-- A page that knows one fixed person, about whom and about itself it says one thing each. -/
def acquaintance (page : Node) : List Event :=
  let friend : Node := { term := .iri "p:alice" }
  let property (s : Node) (predicate : String) (o : Node) : Event := .triple ⟨s, { term := .iri predicate }, o, false⟩
  [property page "p:knows" friend, .startSubject friend, property friend "p:name" { term := .plain "?name" },
    .endSubject friend, property page "p:title" { term := .plain "?title" }, .endSubject page]

/-- A page with a name of its own has all of it in the bracket of what it knows. For a page that is a blank node, that
bracket closes before the rest. -/
theorem compile_joins_acquaintance :
    let document (page : Node) := [.startDocument] ++ ([] ++ .startSubject page :: acquaintance page) ++ [.endDocument]
    let around (page : Node) := (compile {} (document page)).map fun out => (trace out).sites
    (∃ out bracket outer, compile {} (document { term := .var "page" }) = .ok out ∧
      around { term := .var "page" } = .ok [[4, 2], [8, 6, 4, 2], [13, 6, 4, 2]] ∧
      ∀ x ∈ sited (document { term := .var "page" }) out,
        x.2.place ∈ Ahead.innerPlaces 0 (acquaintance { term := .var "page" } ++ [.endDocument]) →
        bracket :: outer <:+ x.1) ∧
    around { term := .blank "b" } = .ok [[4, 2], [9, 2], [14, 2]] := by
  intro document around
  have nested : around { term := .var "page" } = .ok [[4, 2], [8, 6, 4, 2], [13, 6, 4, 2]] := by decide +kernel
  refine ⟨?_, by decide +kernel⟩
  cases compiled : compile {} (document { term := .var "page" }) with
  | error v => simp only [around, compiled] at nested; cases nested
  | ok out =>
    obtain ⟨-, -, bracket, outer, all⟩ := compile_joins_required rfl (by decide) compiled (by decide) (by decide)
      fun _ _ _ => rfl
    exact ⟨out, bracket, outer, rfl, nested, fun x member inside => (all x member inside).1⟩

end TemplateQuery
