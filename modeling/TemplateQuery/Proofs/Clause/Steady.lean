import TemplateQuery.Proofs.Clause.Floor

/-! What holds at every point of a compilation: the stack is layered, its brackets are those open in the text, and a
union whose first alternative is still to come has just begun. -/

set_option autoImplicit false

namespace TemplateQuery

/-- Where alternatives may follow and the next is the first of them, an optional clause has just opened, or nothing has
been written yet. -/
def Fresh (t : Trace) (s : Session) : Prop :=
  s.first = true → s.inUnion = true ∨ s.stack = [] →
    (s.traced t).last = some (.optional .opening) ∨ (s.traced t).sites = []

variable {layout : Layout} {base : List Nat} {t t' : Trace} {s s' : Session}

namespace Fresh

theorem of_apart (inside : s.stack ≠ []) (apart : s.inUnion = false) : Fresh t s := by
  intro _ among
  simp [inside, apart] at among

theorem block (fresh : Fresh t s) (subject : Term) : Fresh t (s.enter layout .block (some subject)) := by
  intro first among
  rw [Session.traced_block]
  have first : s.first = true := by simpa [Session.enter] using first
  have among : s.inUnion = true := by simpa [Session.inUnion, Session.enter, Clause.holdsUnion] using among
  exact fresh first (.inl among)

theorem optional (form : layout.unionForm = true) : Fresh t (s.enter layout .optional none) := by
  intro _ _
  rw [Session.traced_optional form]
  exact .inl rfl

theorem leave (fresh : Fresh t s) (form : layout.unionForm = true) (layered : Layered layout s.stack) :
    Fresh t (s.leave layout) := by
  -- After a group the next alternative is not the first, and an optional clause stands where none may follow.
  cases top : s.stack with
  | nil => simpa [Session.leave, top] using fresh
  | cons f rest =>
    cases clause : f.clause with
    | block =>
      intro first among
      have first : s.first = true := by simpa [Session.first_leave top, clause] using first
      have before := fresh first (.inl (Session.inUnion_of_block layered top clause among))
      rw [Session.traced_leave top]
      cases f.subject <;> simpa [clause, Clause.bracket?, Trace.read, Event.isMark, Event.isPattern] using before
    | optional =>
      obtain ⟨-, filled, apart⟩ := Session.inUnion_of_optional layered form top clause
      exact of_apart filled apart
    | group =>
      obtain ⟨-, among⟩ := Session.inUnion_of_group layered form top clause
      rw [Session.inUnion, Session.stack_leave top] at among
      intro first
      simp [Session.first_leave top, clause, among] at first

end Fresh

theorem Layered.brackets_pos {f : Frame} {rest : List Frame} (form : layout.unionForm = true)
    (layered : Layered layout (f :: rest)) (apart : f.union = false) : 0 < brackets layout (f :: rest) := by
  -- By induction from the innermost frame outwards: a block takes over what is around it, up to a group.
  induction rest generalizing f with
  | nil => rw [show f = ⟨.block, none, true⟩ from layered] at apart; cases apart
  | cons g rest ih =>
    cases clause : f.clause with
    | block =>
      have around : g.union = false := by simpa [layered.1, clause, Clause.holdsUnion] using apart
      have outer := ih layered.tail around
      simp only [brackets, List.foldr_cons] at outer ⊢
      omega
    | optional => simp [layered.1, clause, Clause.holdsUnion, form] at apart
    | group =>
      have wide : f.width layout = 1 := by simp [Frame.width, clause, Clause.bracket?]
      simp only [brackets, List.foldr_cons, wide]
      omega

structure Steady (layout : Layout) (base : List Nat) (t : Trace) (s : Session) : Prop where
  layered : Layered layout s.stack
  rooted : Above layout [] base s.stack t s
  fresh : layout.unionForm = true → Fresh t s
  sane : (s.traced t).Sane

namespace Steady

variable {still : Prop} {vs : List Visit} {sites : List Site} {e : Event} {ahead rest events : List Event}

theorem flush (steady : Steady layout base t s) : Steady layout base (s.traced t) { s with output := [] } :=
  ⟨steady.layered, steady.rooted.flush, steady.fresh, steady.sane⟩

theorem grown {text : List Event} (steady : Steady layout base t s) (output : s'.output = s.output ++ text) :
    (s'.traced t).Sane := by
  rw [Session.traced_append output]
  exact steady.sane.readAll text

theorem leave (steady : Steady layout base t s) : Steady layout base t (s.leave layout) := by
  refine ⟨Session.layered_leave steady.layered, ?_, fun form => (steady.fresh form).leave form steady.layered, ?_⟩
  · have rooted := steady.rooted
    cases top : s.stack with
    | nil => simpa [Session.leave, top] using rooted
    | cons f rest =>
      rw [top] at rooted
      simpa [Session.stack_leave top] using rooted.leave
  · cases top : s.stack with
    | nil => simpa [Session.leave, top] using steady.sane
    | cons f rest => exact steady.grown (Session.output_leave top)

theorem leaveTimes (steady : Steady layout base t s) (count : Nat) :
    Steady layout base t (s.leaveTimes layout count) := by
  induction count generalizing s with
  | zero => exact steady
  | succ count ih => exact ih steady.leave

theorem block (steady : Steady layout base t s) (inside : s.stack ≠ []) (subject : Term) :
    Steady layout base t (s.enter layout .block (some subject)) :=
  ⟨Session.layered_enter steady.layered inside (by simp), steady.rooted.enter .block (some subject),
    fun form => (steady.fresh form).block subject, steady.grown (Session.output_enter _ _)⟩

theorem pattern {p : Pattern} (steady : Steady layout base t s) (stack : s'.stack = s.stack)
    (output : s'.output = s.output ++ [Event.pattern p])
    (apart : s'.first = false ∨ s.stack ≠ [] ∧ (layout.unionForm = true → s.inUnion = false)) :
    Steady layout base t s' := by
  refine ⟨by rw [stack]; exact steady.layered, by rw [stack]; exact steady.rooted.pattern stack output, ?_,
    steady.grown output⟩
  intro form
  rcases apart with last | ⟨inside, apart⟩
  · intro first
    simp [last] at first
  · apply Fresh.of_apart
    · rwa [stack]
    · rw [Session.inUnion, stack]
      exact apart form

theorem group (steady : Steady layout base t s) (inside : s.stack ≠ [])
    (among : layout.unionForm = true → s.inUnion = true) : Steady layout base t (s.enter layout .group none) :=
  ⟨Session.layered_enter steady.layered inside (by simpa using among), steady.rooted.enter .group none,
    fun _ => .of_apart (by simp [Session.enter]) rfl, steady.grown (Session.output_enter _ _)⟩

theorem act (steady : Steady layout base t s) (act : Act layout still s vs s') : Steady layout base t s' := by
  have layered := act.layered steady.layered
  cases act with
  | quiet stack first output =>
    refine ⟨layered, by rw [stack]; exact steady.rooted.same stack output, fun form => ?_, ?_⟩
    · unfold Fresh Session.traced Session.inUnion
      rw [first, stack, output]
      exact steady.fresh form
    · rw [Session.traced, output]
      exact steady.sane
  | anchor =>
    by_cases empty : s.stack = []
    · have anchored : s.anchor = { s with stack := [⟨.block, none, true⟩] } := by simp [Session.anchor, empty]
      rw [anchored]
      have rooted := steady.rooted
      rw [empty] at rooted
      exact ⟨rfl, ⟨rfl, rooted.opens⟩, fun form first _ => steady.fresh form first (.inr empty), steady.sane⟩
    · rwa [Session.anchor_eq_self empty]
  | detach => exact steady.leave
  | optional inside apart =>
    exact ⟨layered, steady.rooted.enter .optional none, .optional, steady.grown (Session.output_enter _ _)⟩
  | join p inside =>
    unfold Session.join
    split
    · next among =>
      exact (steady.group inside fun _ => among).pattern rfl rfl (.inr ⟨by simp [Session.enter], fun _ => rfl⟩)
    · next apart => exact steady.pattern rfl rfl (.inr ⟨inside, fun _ => by simpa using apart⟩)
  | alternative p inside _ among => exact (steady.group inside among).pattern rfl rfl (.inl rfl)
  | lone p => exact steady.pattern rfl rfl (.inl rfl)

theorem acts (steady : Steady layout base t s) (acts : Acts layout t still s sites s') : Steady layout base t s' := by
  induction acts with
  | refl => exact steady
  | tail _ act ih => exact ih.act act

theorem turn (steady : Steady layout base t s) (turn : Turn layout t ahead s e sites s') : Steady layout base t s' := by
  cases turn with
  | opens opens =>
    obtain ⟨subject, outside, inside, left, acts⟩ := opens.acts
    exact ((steady.acts left).block inside subject).acts acts
  | meets acts => exact steady.acts acts
  | closes => exact steady.leaveTimes _
  | passes => exact steady

theorem course (steady : Steady layout base t { s with output := [] })
    (course : Course layout rest t s events sites t' s') : Steady layout base t' { s' with output := [] } := by
  induction course with
  | nil => exact steady
  | cons turn _ ih => exact ih (steady.turn turn).flush

theorem opens_ne_nil (steady : Steady layout base t s) (form : layout.unionForm = true) (inside : s.stack ≠ [])
    (apart : s.inUnion = false) : (s.traced t).opens ≠ [] := by
  obtain ⟨inner, same, count⟩ := steady.rooted.opens
  cases top : s.stack with
  | nil => exact absurd top inside
  | cons f rest =>
    have layered := steady.layered
    rw [top] at layered count
    have some := layered.brackets_pos form (by simpa [Session.inUnion, top] using apart)
    rw [same]
    intro none
    have : inner = [] := (List.append_eq_nil_iff.mp none).1
    simp [this] at count
    omega

end Steady

/-! ## One subject of a document -/

theorem Course.grows {rest events : List Event} {sites : List Site}
    (course : Course layout rest t s events sites t' s') :
    ∃ text, t' = t.readAll text := by
  induction course with
  | nil => exact ⟨[], rfl⟩
  | @cons t _ _ s₁ _ _ _ _ _ _ _ ih =>
    obtain ⟨text, same⟩ := ih
    exact ⟨s₁.output ++ text, by rw [same, Trace.readAll_append]; rfl⟩

theorem Steady.start {opening : List Event} (bare : s.stack = []) (plain : patterns opening = []) :
    Steady layout (trace opening).opens (trace opening) { s with output := [] } := by
  refine ⟨by simp [bare, Layered], ⟨by simp, [], rfl, by simp [bare, brackets]⟩, fun _ _ _ => .inr ?_, ?_⟩
  · exact Trace.sites_of_plain plain {}
  · exact Trace.sane_nil.readAll opening

/-- What is written before a subject opens, when it opens, up to its end, and after that. Only what is written in
between is for the triples in it, and from its opening on nothing is written for the triples before it. -/
theorem Course.stretch {front rest : List Event} {node : Node} {sites : List Site}
    (course : Course layout [.endDocument] t s (front ++ Event.startSubject node :: rest) sites t' s') :
    ∃ t₀ s₀ before opened middle inside within t₁ s₁ tail deeper after,
      sites = before ++ (opened ++ within) ++ after ∧
      Course layout (.startSubject node :: rest ++ [Event.endDocument]) t s front before t₀ s₀ ∧
      Compile.Opens layout t₀ node (rest ++ [Event.endDocument]) { s₀ with output := [] } opened middle ∧
      Course layout tail (middle.traced t₀) middle inside within t₁ s₁ ∧
      rest ++ [Event.endDocument] = inside ++ tail ∧ Ahead.level 0 inside = some deeper ∧
      (∀ site ∈ before ++ after, site.2.place ∉ Ahead.innerPlaces 0 (rest ++ [Event.endDocument])) ∧
      (∀ site ∈ opened ++ within ++ after, site.2.place.after ≤ (rest ++ [Event.endDocument]).length) ∧
      ∃ text, t' = t₁.readAll text := by
  obtain ⟨t₀, s₀, before, later, first, course, all⟩ := course.append
  have places := fun (site : Site) (member : site ∈ later) => Nat.le_of_lt_succ (course.place_of_mem member).1
  cases course with
  | @cons _ _ _ middle _ _ _ opened _ turn course =>
    cases turn with
    | passes noStart => exact absurd rfl (noStart node)
    | opens opens =>
      obtain ⟨inside, tail, deeper, cut, levels, ends⟩ := Ahead.exists_span 0 rest
      rw [cut] at course
      obtain ⟨t₁, s₁, within, after, second, third, split⟩ := course.append
      refine ⟨t₀, s₀, before, opened, middle, inside, within, t₁, s₁, tail ++ [Event.endDocument], deeper, after, ?_,
        first, opens, second, by rw [cut, List.append_assoc], levels, ?_, ?_, third.grows⟩
      · rw [all, split]
        simp
      · intro site member content
        rcases List.mem_append.mp member with early | late
        · -- Earlier sites are of triples met before, or brought forward for a subject further out.
          obtain ⟨-, far | ⟨outer, own⟩⟩ := first.place_of_mem early
          · have near := Ahead.after_lt_of_mem_innerPlaces content
            simp only [List.length_cons, List.length_append] at far near
            omega
          · exact Ahead.innerPlaces_disjoint (Nat.succ_pos outer) content own
        · -- Later ones are of triples after the end of this subject.
          have beyond := (third.place_of_mem late).1
          have ended : Ahead.innerPlaces deeper (tail ++ [Event.endDocument]) = [] := by
            rcases ends with rfl | ⟨rfl, last, more, rfl⟩ <;> rfl
          rw [cut, List.append_assoc] at content
          exact absurd (Ahead.le_after_of_mem_innerPlaces levels ended content) (by omega)
      · rwa [List.append_assoc, ← split]

theorem exists_stretch {front rest out : List Event} {node : Node}
    (inner : ∀ e ∈ front ++ Event.startSubject node :: rest, e ≠ .startDocument ∧ e ≠ .endDocument)
    (compiled : compile layout
      ([Event.startDocument] ++ (front ++ Event.startSubject node :: rest) ++ [Event.endDocument]) = .ok out) :
    ∃ base t s before opened middle inside within t' s' tail deeper after,
      sited ([Event.startDocument] ++ (front ++ Event.startSubject node :: rest) ++ [Event.endDocument]) out =
        before ++ (opened ++ within) ++ after ∧
      Steady layout base t s ∧ Compile.Opens layout t node (rest ++ [Event.endDocument]) s opened middle ∧
      Course layout tail (middle.traced t) middle inside within t' s' ∧
      rest ++ [Event.endDocument] = inside ++ tail ∧ Ahead.level 0 inside = some deeper ∧
      (∀ site ∈ before ++ after, site.2.place ∉ Ahead.innerPlaces 0 (rest ++ [Event.endDocument])) ∧
      ∀ bracket ∈ t'.hollows, bracket ∈ (trace out).hollows := by
  obtain ⟨opening, closing, start, _, _, course, bare, plain, read⟩ := course_of_compile inner compiled
  obtain ⟨t, s, before, opened, middle, inside, within, t', s', tail, deeper, after, all, first, opens, second, cut,
    levels, elsewhere, -, text, grown⟩ := course.stretch
  refine ⟨_, t, _, before, opened, middle, inside, within, t', s', tail, deeper, after, all,
    (Steady.start bare plain).course first, opens, second, cut, levels, elsewhere, fun bracket hollow => ?_⟩
  rw [read, grown]
  exact Trace.hollows_readAll _ (Trace.hollows_readAll _ hollow)

end TemplateQuery
