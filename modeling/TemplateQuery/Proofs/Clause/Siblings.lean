import TemplateQuery.Proofs.Clause.Steady

/-! Optional triples of one subject are alternatives: none is written inside the bracket of another. The group of one is
left open for a subject that it leads to, and closed before the next is written, unless what it leads to has left an
empty optional clause in it. Main statement: `compile_separates_siblings`. -/

set_option autoImplicit false

namespace TemplateQuery

variable {layout : Layout} {base : List Nat} {bracket depth : Nat} {t t' : Trace} {s s' : Session}

/-! ## What becomes of a group -/

theorem Above.apart {above under : List Frame} (form : layout.unionForm = true) (layered : Layered layout s.stack)
    (on : Above layout (⟨.group, none, false⟩ :: under) base above t s) (none : brackets layout above = 0) :
    s.inUnion = false := by
  -- Frames without brackets take over from a group that nothing right inside them is an alternative.
  rw [Session.inUnion, on.stack]
  rw [on.stack] at layered
  clear on
  induction above with
  | nil => rfl
  | cons f above ih =>
    have widths : f.width layout = 0 ∧ brackets layout above = 0 := by simpa [brackets] using none
    have block : f.clause = .block := by
      cases clause : f.clause <;> simp [Frame.width, clause, Clause.bracket?, form] at widths ⊢
    have below := ih layered.tail widths.2
    cases above with
    | nil => simp [layered.1, block, Clause.holdsUnion]
    | cons g above => simpa [layered.1, block, Clause.holdsUnion] using below

/-- A group with one pattern in it, and the frames `above` for what the pattern leads to. As long as these hold no
bracket, the next alternative is known not to be the first. -/
structure Rests (layout : Layout) (bracket : Nat) (above : List Frame) (t : Trace) (s : Session) : Prop where
  on : ∃ under outer, Above layout (⟨.group, none, false⟩ :: under) (bracket :: outer) above t s
  wrote : (s.traced t).sites ≠ []
  idle : brackets layout above = 0 → s.first = false

namespace Rests

variable {above : List Frame} {f : Frame}

theorem same (rests : Rests layout bracket above t s) (stack : s'.stack = s.stack) (first : s'.first = s.first)
    (output : s'.output = s.output) : Rests layout bracket above t s' := by
  obtain ⟨⟨under, outer, on⟩, wrote, idle⟩ := rests
  exact ⟨⟨under, outer, on.same stack output⟩, by rwa [Session.traced, output], by rwa [first]⟩

theorem enter (rests : Rests layout bracket above t s) (clause : Clause) (subject : Option Term)
    (bracketed : clause = .block ∨ (clause.bracket? layout).isSome = true) :
    Rests layout bracket (⟨clause, subject, clause.holdsUnion layout s.inUnion⟩ :: above) t
      (s.enter layout clause subject) := by
  obtain ⟨⟨under, outer, on⟩, wrote, idle⟩ := rests
  refine ⟨⟨under, outer, on.enter clause subject⟩, by rwa [Session.sites_enter], fun none => ?_⟩
  rcases bracketed with rfl | some
  · have : s.first = false := idle (by simpa [brackets, Frame.width, Clause.bracket?] using none)
    simp [Session.enter, this]
  · obtain ⟨half, found⟩ := Option.isSome_iff_exists.mp some
    simp [brackets, Frame.width, found] at none

theorem pattern {p : Pattern} (rests : Rests layout bracket above t s) (stack : s'.stack = s.stack)
    (first : s'.first = s.first ∨ s'.first = false) (output : s'.output = s.output ++ [Event.pattern p]) :
    Rests layout bracket above t s' := by
  obtain ⟨⟨under, outer, on⟩, wrote, idle⟩ := rests
  refine ⟨⟨under, outer, on.pattern stack output⟩, by rw [Session.sites_pattern output]; simp, fun none => ?_⟩
  rcases first with same | last
  · rw [same]
    exact idle none
  · exact last

/-- Closing one frame above the group: if it was the last bracket there and nothing was written in it, it is an empty
optional clause. -/
theorem leave (form : layout.unionForm = true) (steady : Steady layout base t s)
    (rests : Rests layout bracket (f :: above) t s) :
    bracket ∈ ((s.leave layout).traced t).hollows ∨ Rests layout bracket above t (s.leave layout) := by
  obtain ⟨under, outer, on⟩ := rests.on
  have wrote : ((s.leave layout).traced t).sites ≠ [] := by rw [Session.sites_leave]; exact rests.wrote
  have kept : (brackets layout above = 0 → (s.leave layout).first = false) →
      Rests layout bracket above t (s.leave layout) := fun idle => ⟨⟨under, outer, on.leave⟩, wrote, idle⟩
  have lowered : s.first = false → (s.leave layout).first = false := by
    intro first
    simp [Session.first_leave on.stack, first]
  cases clause : f.clause with
  | block =>
    refine .inr (kept fun none => lowered (rests.idle ?_))
    simpa [brackets, Frame.width, clause, Clause.bracket?] using none
  | group =>
    refine .inr (kept fun none => ?_)
    -- A group stands only where alternatives may, and right above the first group there is no such place.
    have below := on.leave.apart form (Session.layered_leave steady.layered) none
    cases below.symm.trans (Session.inUnion_of_group steady.layered form on.stack clause).2
  | optional =>
    by_cases none : brackets layout above = 0
    · cases first : s.first with
      | false => exact .inr (kept fun _ => lowered first)
      | true =>
        left
        have among := (Session.inUnion_of_optional steady.layered form on.stack clause).1
        have last : (s.traced t).last = some (.optional .opening) :=
          (steady.fresh form first (.inl among)).resolve_right rests.wrote
        obtain ⟨inner, opens, count⟩ := on.opens
        have one : inner.length = 1 := by
          have widths : inner.length = f.width layout + brackets layout above := by simpa [brackets] using count
          simp [widths, none, Frame.width, clause, Clause.bracket?, form]
        obtain ⟨k, rfl⟩ := List.length_eq_one_iff.mp one
        rw [Session.traced_leave on.stack, clause]
        cases f.subject <;> simp [Clause.bracket?, form, Trace.read, Event.isMark, Event.half?, last, opens]
    · exact .inr (kept fun zero => absurd zero none)

theorem closes (steady : Steady layout base t s) (rests : Rests layout bracket [] t s) :
    ((s.leave layout).traced t).Closed bracket := by
  obtain ⟨under, outer, on⟩ := rests.on
  obtain ⟨inner, opens, none⟩ := on.opens
  have opens : (s.traced t).opens = bracket :: outer := by
    rw [opens, List.length_eq_zero_iff.mp none, List.nil_append]
  have nodup := steady.sane.nodup
  rw [opens] at nodup
  obtain ⟨text, output⟩ := Session.leave_grows layout s
  refine ⟨?_, ?_⟩
  · have before := steady.sane.opens bracket (by simp [opens])
    rw [Session.traced_append output, Trace.length_readAll]
    omega
  · rw [Session.opens_leave on.stack, opens]
    simpa [Clause.bracket?] using (List.nodup_cons.mp nodup).1

theorem leaveTimes (form : layout.unionForm = true) (gone : List Frame) (steady : Steady layout base t s)
    (rests : Rests layout bracket (gone ++ above) t s) :
    bracket ∈ ((s.leaveTimes layout gone.length).traced t).hollows ∨
      Rests layout bracket above t (s.leaveTimes layout gone.length) := by
  induction gone generalizing s with
  | nil => exact .inr rests
  | cons f gone ih =>
    rcases rests.leave form steady with hollow | rests
    · obtain ⟨text, output⟩ := Session.leaveTimes_grows layout gone.length (s.leave layout)
      left
      rw [List.length_cons, Session.leaveTimes, Session.traced_append output]
      exact Trace.hollows_readAll text hollow
    · exact ih steady.leave rests

end Rests

/-- A group at rest, with `depth` subjects open above it. What stands right on it is a subject. -/
def Resting (layout : Layout) (bracket depth : Nat) (t : Trace) (s : Session) : Prop :=
  ∃ above, Rests layout bracket above t s ∧ subjects above = depth ∧ ∀ f ∈ above.getLast?, f.subject.isSome = true

/-- The group has closed, or an empty optional clause was left in it, or it is at rest. -/
def Fate (layout : Layout) (bracket depth : Nat) (t : Trace) (s : Session) : Prop :=
  (s.traced t).Closed bracket ∨ bracket ∈ (s.traced t).hollows ∨ Resting layout bracket depth t s

section Fates

variable {still : Prop} {vs : List Visit}

theorem eq_nil_of_bottom {above : List Frame} (none : subjects above = 0)
    (bottom : ∀ f ∈ above.getLast?, f.subject.isSome = true) : above = [] := by
  by_contra filled
  have last := List.getLast_mem filled
  have subject := bottom _ (List.getLast?_eq_some_getLast filled)
  have absent := List.countP_eq_zero.mp none _ last
  exact absent subject

theorem getLast?_tail {above : List Frame} {f : Frame} (bare : f.subject = none)
    (bottom : ∀ g ∈ (f :: above).getLast?, g.subject.isSome = true) :
    above ≠ [] ∧ ∀ g ∈ above.getLast?, g.subject.isSome = true := by
  cases above with
  | nil => simp [bare] at bottom
  | cons g above => exact ⟨by simp, by simpa [List.getLast?_cons_cons] using bottom⟩

theorem getLast?_push {above : List Frame} (f : Frame) (filled : above ≠ [] ∨ f.subject.isSome = true)
    (bottom : ∀ g ∈ above.getLast?, g.subject.isSome = true) :
    ∀ g ∈ (f :: above).getLast?, g.subject.isSome = true := by
  cases above with
  | nil => simpa using filled
  | cons g above => simpa [List.getLast?_cons_cons] using bottom

theorem Resting.act (form : layout.unionForm = true) (steady : Steady layout base t s)
    (resting : Resting layout bracket depth t s) (act : Act layout still s vs s') :
    Fate layout bracket depth t s' ∧ (depth = 0 → ∀ v ∈ vs, v.pass = .required) := by
  obtain ⟨above, rests, count, bottom⟩ := resting
  obtain ⟨under, outer, on⟩ := rests.on
  -- Without frames above it, the group is where nothing may follow but the end of it.
  have bare : above = [] → s.inUnion = false ∧ s.inOptional = false ∧ s.dangling = true ∧ s.first = false := by
    rintro rfl
    refine ⟨?_, ?_, ?_, rests.idle rfl⟩
    · simp [Session.inUnion, on.stack]
    · simp [Session.inOptional, on.stack]
    · simp [Session.dangling, on.stack]
  have alone : depth = 0 → above = [] := fun zero => eq_nil_of_bottom (count.trans zero) bottom
  have rest : ∀ {above : List Frame}, Rests layout bracket above t s' → subjects above = depth →
      (∀ f ∈ above.getLast?, f.subject.isSome = true) → Fate layout bracket depth t s' :=
    fun rests count bottom => .inr (.inr ⟨_, rests, count, bottom⟩)
  cases act with
  | quiet stack first output => exact ⟨rest (rests.same stack first output) count bottom, by simp⟩
  | anchor =>
    rw [Session.anchor_eq_self (by simp [on.stack])] at rest ⊢
    exact ⟨rest rests count bottom, by simp⟩
  | detach dangling =>
    refine ⟨?_, by simp⟩
    cases above with
    | nil => exact .inl (rests.closes steady)
    | cons f above =>
      rw [Session.dangling, on.stack] at dangling
      have loose : f.subject = none := by simp_all
      rcases rests.leave form steady with hollow | left
      · exact .inr (.inl hollow)
      · exact rest left (by simpa [subjects, loose] using count) (getLast?_tail loose bottom).2
  | optional inside apart settled =>
    refine ⟨?_, by simp⟩
    by_cases empty : above = []
    · obtain ⟨-, -, dangling, first⟩ := bare empty
      simp [settled form dangling] at first
    · exact rest (rests.enter .optional none (.inr (by simp [Clause.bracket?, form])))
        (by simpa [subjects] using count) (getLast?_push _ (.inl empty) bottom)
  | join p inside required =>
    refine ⟨?_, fun _ v member => by simp_all⟩
    unfold Session.join at rest ⊢
    split
    · next among =>
      have filled : above ≠ [] := fun empty => by simp [(bare empty).1] at among
      rw [if_pos among] at rest
      exact rest ((rests.enter .group none (.inr rfl)).pattern rfl (.inl rfl) rfl) (by simpa [subjects] using count)
        (getLast?_push _ (.inl filled) bottom)
    · next apart =>
      rw [if_neg apart] at rest
      exact rest (rests.pattern rfl (.inl rfl) rfl) count bottom
  | alternative p inside late among =>
    have filled : above ≠ [] := fun empty => by simp [(bare empty).1] at among; simp [form] at among
    refine ⟨rest ((rests.enter .group none (.inr rfl)).pattern rfl (.inr rfl) rfl) (by simpa [subjects] using count)
      (getLast?_push _ (.inl filled) bottom), fun zero => absurd (alone zero) filled⟩
  | lone p quiet inOptional first =>
    have filled : above ≠ [] := fun empty => by simp [(bare empty).2.1] at inOptional
    exact ⟨rest (rests.pattern rfl (.inr rfl) rfl) count bottom, fun zero => absurd (alone zero) filled⟩

namespace Fate

theorem carry {other : Nat} {text : List Event} (fate : Fate layout bracket depth t s)
    (output : s'.output = s.output ++ text)
    (rest : Resting layout bracket depth t s → Fate layout bracket other t s') : Fate layout bracket other t s' := by
  rcases fate with closed | hollow | resting
  · refine .inl ?_
    rw [Session.traced_append output]
    exact closed.readAll text
  · refine .inr (.inl ?_)
    rw [Session.traced_append output]
    exact Trace.hollows_readAll text hollow
  · exact rest resting

theorem flush (fate : Fate layout bracket depth t s) :
    Fate layout bracket depth (s.traced t) { s with output := [] } := by
  rcases fate with closed | hollow | ⟨above, ⟨⟨under, outer, on⟩, wrote, idle⟩, count, bottom⟩
  · exact .inl closed
  · exact .inr (.inl hollow)
  · exact .inr (.inr ⟨above, ⟨⟨under, outer, on.flush⟩, wrote, idle⟩, count, bottom⟩)

theorem act (form : layout.unionForm = true) (steady : Steady layout base t s) (fate : Fate layout bracket depth t s)
    (act : Act layout still s vs s') : Fate layout bracket depth t s' := by
  obtain ⟨text, output⟩ := act.grows
  exact fate.carry output fun resting => (resting.act form steady act).1

/-- An optional pattern of the same subject is not written in the group, unless that has an empty optional clause. -/
theorem outside (form : layout.unionForm = true) (steady : Steady layout base t s) (fate : Fate layout bracket 0 t s)
    (act : Act layout still s vs s') {v : Visit} (member : v ∈ vs) (late : v.pass ≠ .required)
    (within : bracket ∈ (s'.traced t).opens) : bracket ∈ (s'.traced t).hollows := by
  obtain ⟨text, output⟩ := act.grows
  rcases fate with closed | hollow | resting
  · have closed := closed.readAll text
    rw [← Session.traced_append output] at closed
    exact absurd within closed.shut
  · rw [Session.traced_append output]
    exact Trace.hollows_readAll text hollow
  · exact absurd ((resting.act form steady act).2 rfl v member) late

theorem block (fate : Fate layout bracket depth t s) (subject : Term) :
    Fate layout bracket (depth + 1) t (s.enter layout .block (some subject)) := by
  refine fate.carry (Session.output_enter _ _) ?_
  rintro ⟨above, rests, count, bottom⟩
  exact .inr (.inr ⟨_, rests.enter .block (some subject) (.inl rfl), by simpa [subjects] using count,
    getLast?_push _ (.inr rfl) bottom⟩)

theorem leaveSubject (form : layout.unionForm = true) (steady : Steady layout base t s)
    (fate : Fate layout bracket (depth + 1) t s) : Fate layout bracket depth t (s.leaveSubject layout) := by
  obtain ⟨text, output⟩ := Session.leaveTimes_grows layout ((s.stack.takeWhile (·.subject.isNone)).length + 1) s
  refine fate.carry output ?_
  rintro ⟨above, rests, count, bottom⟩
  obtain ⟨under, outer, on⟩ := rests.on
  obtain ⟨gone, left, rfl, fewer, length⟩ := exists_innermost count (⟨.group, none, false⟩ :: under)
  rw [Session.leaveSubject, on.stack, ← length]
  rcases rests.leaveTimes form gone steady with hollow | rests
  · exact .inr (.inl hollow)
  · refine .inr (.inr ⟨left, rests, fewer, fun f member => bottom f ?_⟩)
    rw [List.getLast?_append, member]
    rfl

end Fate

end Fates

/-! ## The patterns of a subject -/

/-- Neither pattern is inside the bracket of the other, except that an earlier bracket with an empty optional clause in
it may hold a later pattern. -/
def Independent (hollows : List Nat) (x y : Site) : Prop :=
  ∃ first second, x.1.head? = some first ∧ y.1.head? = some second ∧ second ∉ x.1 ∧ (first ∈ y.1 → first ∈ hollows)

theorem Independent.mono {hollows more : List Nat} {x y : Site} (apart : Independent hollows x y)
    (grown : ∀ k ∈ hollows, k ∈ more) : Independent more x y := by
  obtain ⟨first, second, one, two, before, after⟩ := apart
  exact ⟨first, second, one, two, before, fun inside => grown first (after inside)⟩

/-- The patterns written so far, of which those for `own` places are alternatives. `last` says that no more of them
come. -/
structure Apart (layout : Layout) (own : Place → Prop) (depth : Nat) (last : Prop) (t : Trace) (s : Session)
    (sites : List Site) : Prop where
  fates : ∀ x ∈ sites, own x.2.place → ∃ bracket outer, x.1 = bracket :: outer ∧
    (Fate layout bracket depth t s ∨ depth = 0 ∧ last)
  pairs : ∀ x y, [x, y].Sublist sites → own x.2.place → own y.2.place → Independent (s.traced t).hollows x y
  logged : ∀ x ∈ sites, x.1 ∈ (s.traced t).sites

namespace Apart

variable {own : Place → Prop} {last still : Prop} {sites new : List Site} {vs : List Visit}

theorem mono {other : Prop} (apart : Apart layout own depth last t s sites) (weaker : last → other) :
    Apart layout own depth other t s sites := by
  refine ⟨fun x member mine => ?_, apart.pairs, apart.logged⟩
  obtain ⟨bracket, outer, same, fate⟩ := apart.fates x member mine
  exact ⟨bracket, outer, same, fate.imp_right fun ⟨zero, done⟩ => ⟨zero, weaker done⟩⟩

theorem flush (apart : Apart layout own depth last t s sites) :
    Apart layout own depth last (s.traced t) { s with output := [] } sites := by
  refine ⟨fun x member mine => ?_, apart.pairs, apart.logged⟩
  obtain ⟨bracket, outer, same, fate⟩ := apart.fates x member mine
  exact ⟨bracket, outer, same, fate.imp_left Fate.flush⟩

theorem carry {other : Nat} {text : List Event} (apart : Apart layout own depth last t s sites)
    (output : s'.output = s.output ++ text) (unwritten : (s'.traced t).sites = (s.traced t).sites)
    (fates : ∀ bracket, Fate layout bracket depth t s ∨ depth = 0 ∧ last → Fate layout bracket other t s') :
    Apart layout own other False t s' sites := by
  refine ⟨fun x member mine => ?_, fun x y order mine yours => ?_, by rw [unwritten]; exact apart.logged⟩
  · obtain ⟨bracket, outer, same, fate⟩ := apart.fates x member mine
    exact ⟨bracket, outer, same, .inl (fates bracket fate)⟩
  · refine (apart.pairs x y order mine yours).mono fun k hollow => ?_
    rw [Session.traced_append output]
    exact Trace.hollows_readAll text hollow

theorem lone_bracket (form : layout.unionForm = true) (steady : Steady layout base t s)
    (inOptional : s.inOptional = true) (first : s.first = true) :
    ∃ bracket outer, (s.traced t).opens = bracket :: outer ∧ ∀ site ∈ (s.traced t).sites, bracket ∉ site := by
  unfold Session.inOptional at inOptional
  obtain ⟨inner, opens, count⟩ := steady.rooted.opens
  cases top : s.stack with
  | nil => simp [top] at inOptional
  | cons f rest =>
    have clause : f.clause = .optional := by simpa [top] using inOptional
    rw [top] at count
    have among := (Session.inUnion_of_optional steady.layered form top clause).1
    rcases steady.fresh form first (.inl among) with last | none
    · exact steady.sane.fresh last
    · have filled : inner ≠ [] := by
        rintro rfl
        simp [brackets, Frame.width, clause, Clause.bracket?, form] at count
        omega
      obtain ⟨k, inner, rfl⟩ := List.exists_cons_of_ne_nil filled
      exact ⟨k, inner ++ base, opens, by simp [none]⟩

theorem fresh_bracket (form : layout.unionForm = true) (steady : Steady layout base t s)
    (act : Act layout still s vs s') {v : Visit} (member : v ∈ vs) (late : v.pass ≠ .required) :
    ∃ bracket outer, (s'.traced t).opens = bracket :: outer ∧ (∀ site ∈ (s.traced t).sites, bracket ∉ site) ∧
      (Fate layout bracket 0 t s' ∨ still) := by
  cases act with
  | quiet | anchor | detach | optional => cases member
  | join p inside required =>
    rw [List.mem_singleton.mp member] at late
    exact absurd required late
  | alternative p =>
    obtain ⟨new, opens, count, beyond⟩ := @Session.opens_enter layout s t .group none
    obtain ⟨k, rfl⟩ : ∃ k, new = [k] := List.length_eq_one_iff.mp (by simpa [Clause.bracket?] using count)
    have placed : (({ (s.enter layout .group none).write p with first := false } : Session).traced t).opens =
        k :: (s.traced t).opens := by
      rw [Session.opens_pattern rfl, opens]
      rfl
    refine ⟨k, (s.traced t).opens, placed, fun site inside among => ?_, .inl (.inr (.inr ⟨[], ?_, rfl, by simp⟩))⟩
    · have before := steady.sane.sites site inside k among
      have after := beyond k (by simp)
      omega
    · refine ⟨⟨s.stack, (s.traced t).opens, rfl, [], placed, rfl⟩, ?_, fun _ => rfl⟩
      rw [Session.sites_pattern rfl]
      simp
  | lone p quiet inOptional first =>
    obtain ⟨bracket, outer, opens, apart⟩ := lone_bracket form steady inOptional first
    exact ⟨bracket, outer, (Session.opens_pattern rfl).trans opens, apart, .inr quiet⟩

theorem act (form : layout.unionForm = true) (steady : Steady layout base t s)
    (apart : Apart layout own depth last t s sites)
    (act : Act layout still s vs s') (mine : ∀ v ∈ vs, own v.place → depth = 0 ∧ v.pass ≠ .required ∧ ¬ last) :
    Apart layout own depth (last ∨ vs ≠ [] ∧ still) t s' (sites ++ vs.map fun v => ((s'.traced t).opens, v)) := by
  obtain ⟨text, output⟩ := act.grows
  refine ⟨?_, ?_, ?_⟩
  · intro x member own
    rcases List.mem_append.mp member with old | now
    · obtain ⟨bracket, outer, same, fate⟩ := apart.fates x old own
      exact ⟨bracket, outer, same, fate.imp (·.act form steady act) fun ⟨zero, done⟩ => ⟨zero, .inl done⟩⟩
    · obtain ⟨v, among, rfl⟩ := List.mem_map.mp now
      obtain ⟨rfl, late, -⟩ := mine v among own
      obtain ⟨bracket, outer, opens, -, fate⟩ := fresh_bracket form steady act among late
      exact ⟨bracket, outer, opens, fate.imp_right fun done => ⟨rfl, .inr ⟨List.ne_nil_of_mem among, done⟩⟩⟩
  · intro x y order ownX ownY
    obtain ⟨early, late, same, before, after⟩ := List.sublist_append_iff.mp order
    rcases early with - | ⟨_, - | ⟨_, early⟩⟩
    · -- One act writes one pattern at most.
      have few := after.length_le
      rw [List.nil_append] at same
      rw [← same, List.length_map] at few
      exact absurd (few.trans act.few) (by simp)
    · obtain ⟨rfl, rfl⟩ : x = _ ∧ [y] = late := by simpa using same
      obtain ⟨v, among, rfl⟩ := List.mem_map.mp (after.subset List.mem_cons_self)
      obtain ⟨rfl, late, more⟩ := mine v among ownY
      have old := before.subset List.mem_cons_self
      obtain ⟨bracket, outer, opens, fresh, -⟩ := fresh_bracket form steady act among late
      obtain ⟨first, around, head, fate⟩ := apart.fates x old ownX
      refine ⟨first, bracket, by rw [head]; rfl, by rw [opens]; rfl, fresh _ (apart.logged x old), fun within => ?_⟩
      exact (fate.resolve_right fun done => more done.2).outside form steady act among late within
    · obtain ⟨rfl, rfl, rfl, rfl⟩ : x = _ ∧ y = _ ∧ early = [] ∧ late = [] := by simpa using same
      refine (apart.pairs x y before ownX ownY).mono fun k hollow => ?_
      rw [Session.traced_append output]
      exact Trace.hollows_readAll text hollow
  · intro x member
    rw [act.sites, List.mem_append]
    rcases List.mem_append.mp member with old | now
    · exact .inl (apart.logged x old)
    · obtain ⟨v, among, rfl⟩ := List.mem_map.mp now
      exact .inr (List.mem_map_of_mem (f := fun _ => (s'.traced t).opens) among)

theorem acts (form : layout.unionForm = true) (steady : Steady layout base t s)
    (apart : Apart layout own depth last t s sites) (acts : Acts layout t still s new s')
    (few : new.length ≤ 1 ∨ ¬ still)
    (mine : ∀ x ∈ new, own x.2.place → depth = 0 ∧ x.2.pass ≠ .required ∧ ¬ last) :
    Apart layout own depth (last ∨ new ≠ [] ∧ still) t s' (sites ++ new) := by
  induction acts with
  | refl => simpa using apart
  | @tail mid s' before vs acts act ih =>
    have shorter : before.length ≤ 1 ∨ ¬ still := few.imp_left fun few => by
      simp only [List.length_append] at few
      omega
    have so_far := ih shorter fun x member => mine x (List.mem_append_left _ member)
    have next := so_far.act form (steady.acts acts) act fun v member own => by
      obtain ⟨zero, late, more⟩ := mine _ (List.mem_append_right _ (List.mem_map_of_mem member)) own
      refine ⟨zero, late, fun done => ?_⟩
      rcases done with done | ⟨filled, quiet⟩
      · exact more done
      · -- A pattern that nothing may follow is the only one of these acts.
        have some : 0 < vs.length := List.length_pos_of_mem member
        have first : 0 < before.length := List.length_pos_iff.mpr filled
        rcases few with few | never
        · simp only [List.length_append, List.length_map] at few
          omega
        · exact never quiet
    rw [List.append_assoc] at next
    refine next.mono ?_
    rintro ((done | ⟨filled, quiet⟩) | ⟨filled, quiet⟩)
    · exact .inl done
    · exact .inr ⟨by simp [filled], quiet⟩
    · exact .inr ⟨by simp [filled], quiet⟩

end Apart

/-- The optional triples of a subject; those still ahead are right in the subject `depth` further out. -/
def Owns (own : Place → Prop) (depth : Nat) (ahead : List Event) : Prop :=
  ∀ place, own place → place.triple.isOpen = true ∧ (place.after < ahead.length → place ∈ Ahead.ownPlaces depth ahead)

section Course

variable {own : Place → Prop} {sites new : List Site} {e : Event} {events rest ahead : List Event} {deeper : Nat}

theorem Owns.tail {next : Nat} (owns : Owns own depth (e :: ahead))
    (stay : ∀ place : Place, place.after < ahead.length → place ∈ Ahead.ownPlaces depth (e :: ahead) →
      place ∈ Ahead.ownPlaces next ahead) : Owns own next ahead := by
  intro place mine
  obtain ⟨isOpen, later⟩ := owns place mine
  exact ⟨isOpen, fun before => stay place before (later (Nat.lt_succ_of_lt before))⟩

namespace Apart

theorem opens {node : Node} (form : layout.unionForm = true) (steady : Steady layout base t s)
    (apart : Apart layout own depth False t s sites) (opens : Compile.Opens layout t node ahead s new s')
    (others : ∀ x ∈ new, ¬ own x.2.place) : Apart layout own (depth + 1) False t s' (sites ++ new) := by
  obtain ⟨subject, outside, inside, left, acts⟩ := opens.acts
  have before : Apart layout own depth False t outside sites := by
    simpa using apart.acts form steady left (.inl (by simp)) (by simp)
  have block : Apart layout own (depth + 1) False t (outside.enter layout .block (some subject)) sites := by
    refine before.carry (Session.output_enter _ _) (Session.sites_enter _ _) fun bracket fate => ?_
    exact (fate.resolve_right And.right).block subject
  have start := (steady.acts left).block inside subject
  simpa using block.acts form start acts (.inr id) fun x member mine => absurd mine (others x member)

theorem closes (form : layout.unionForm = true) (steady : Steady layout base t s) {last : Prop}
    (apart : Apart layout own (depth + 1) last t s sites) :
    Apart layout own depth False t (s.leaveSubject layout) sites := by
  obtain ⟨text, output⟩ := Session.leaveTimes_grows layout ((s.stack.takeWhile (·.subject.isNone)).length + 1) s
  refine apart.carry output (Turn.sites_leaveTimes _ s) fun bracket fate => ?_
  exact (fate.resolve_right fun ⟨zero, _⟩ => by cases zero).leaveSubject form steady

theorem meets {u : Triple} (form : layout.unionForm = true) (steady : Steady layout base t s)
    (apart : Apart layout own depth (Quiet (.triple u :: ahead)) t s sites)
    (acts : Acts layout t (Quiet ahead) s new s')
    (visit : new.map Prod.snd = written [⟨⟨ahead.length, u⟩, .inLine, s.naming⟩])
    (owns : Owns own depth (.triple u :: ahead)) : Apart layout own depth (Quiet ahead) t s' (sites ++ new) := by
  have few : new.length ≤ 1 := by
    have := congrArg List.length visit
    rw [List.length_map] at this
    rw [this]
    exact List.length_filter_le _ _
  refine (apart.acts form steady acts (.inl few) fun x member mine => ?_).mono ?_
  · rw [visit_of_met visit member] at mine ⊢
    obtain ⟨isOpen, later⟩ := owns _ mine
    exact ⟨Ahead.eq_zero_of_mem_ownPlaces (later (by simp)), by simp, fun quiet => by simp [quiet.1] at isOpen⟩
  · rintro (quiet | ⟨_, quiet⟩)
    · exact quiet.2
    · exact quiet

theorem turn (form : layout.unionForm = true) (steady : Steady layout base t s)
    (apart : Apart layout own depth (Quiet (e :: ahead)) t s sites) (turn : Turn layout t ahead s e new s')
    (levels : Ahead.level depth (e :: events) = some deeper) (owns : Owns own depth (e :: ahead)) :
    ∃ next, Apart layout own next (Quiet ahead) t s' (sites ++ new) ∧ Ahead.level next events = some deeper ∧
      Owns own next ahead := by
  cases turn with
  | opens started =>
    refine ⟨depth + 1, (Apart.opens form steady apart started fun x member mine => ?_).mono False.elim, levels,
      owns.tail fun _ _ own => own⟩
    have nested := started.place_mem member
    have outer := (owns _ mine).2 (Nat.lt_succ_of_lt (Ahead.after_lt_of_mem_ownPlaces nested))
    exact Ahead.innerPlaces_disjoint (Nat.succ_pos depth) ((Ahead.ownPlaces_sublist _ _).subset nested) outer
  | meets acts visit =>
    exact ⟨depth, apart.meets form steady acts visit owns, by simpa [Ahead.level] using levels,
      owns.tail fun _ before own => Ahead.mem_ownPlaces_of_triple own before⟩
  | closes =>
    cases depth with
    | zero => cases levels
    | succ depth =>
      refine ⟨depth, ?_, levels, owns.tail fun _ _ own => own⟩
      rw [List.append_nil]
      exact (apart.closes form steady).mono False.elim
  | passes noStart noEnd noTriple =>
    refine ⟨depth, ?_, by rwa [Ahead.level_other noStart noEnd] at levels,
      owns.tail fun _ _ own => by rwa [Ahead.ownPlaces_other noStart noEnd noTriple] at own⟩
    rw [List.append_nil]
    exact apart.mono fun quiet => by rwa [Quiet] at quiet <;> assumption

theorem course (form : layout.unionForm = true) (course : Course layout rest t s events new t' s')
    (steady : Steady layout base t { s with output := [] })
    (apart : Apart layout own depth (Quiet (events ++ rest)) t { s with output := [] } sites)
    (levels : Ahead.level depth events = some deeper) (owns : Owns own depth (events ++ rest)) :
    ∀ x y, [x, y].Sublist (sites ++ new) → own x.2.place → own y.2.place → Independent t'.hollows x y := by
  induction course generalizing depth sites with
  | nil =>
    rw [List.append_nil]
    exact apart.pairs
  | cons turn later ih =>
    obtain ⟨next, apart, levels, owns⟩ := apart.turn form steady turn levels owns
    rw [← List.append_assoc]
    exact ih (steady.turn turn).flush apart.flush levels owns

end Apart

end Course

section Document

variable {front rest out : List Event} {node : Node}

/-- In a query with unions, of two optional triples of one subject neither is written inside the innermost bracket of
the other. The one exception is a later triple in the bracket of an earlier one that has an empty optional clause in
it. -/
theorem compile_separates_siblings (form : layout.unionForm = true)
    (inner : ∀ e ∈ front ++ .startSubject node :: rest, e ≠ .startDocument ∧ e ≠ .endDocument)
    (compiled : compile layout ([.startDocument] ++ (front ++ .startSubject node :: rest) ++ [.endDocument]) =
      .ok out) :
    let document := [.startDocument] ++ (front ++ .startSubject node :: rest) ++ [.endDocument]
    let optional (x : Site) := x.2.place ∈ Ahead.ownPlaces 0 (rest ++ [.endDocument]) ∧ x.2.place.triple.isOpen = true
    (patterns out).map Except.ok = (sited document out).map (·.2.outcome) ∧
    ∀ x y, [x, y].Sublist (sited document out) → optional x → optional y →
      Independent (trace out).hollows x y := by
  intro document optional
  obtain ⟨base, t, s, before, opened, middle, inside, within, t', s', tail, deeper, after, all, steady, opens, course,
    cut, levels, elsewhere, grown⟩ := exists_stretch inner compiled
  refine ⟨outcome_sited compiled, fun x y order ownX ownY => ?_⟩
  let own (place : Place) := place ∈ Ahead.ownPlaces 0 (rest ++ [Event.endDocument]) ∧ place.triple.isOpen = true
  have start : Apart layout own 0 (Quiet (inside ++ tail)) t middle opened := by
    obtain ⟨subject, outside, filled, left, acts⟩ := opens.acts
    have block := (steady.acts left).block filled subject
    have bare : Apart layout own 0 False t (outside.enter layout .block (some subject)) [] :=
      ⟨by simp, by simp, by simp⟩
    refine (bare.acts form block acts (.inr id) fun x member mine => ⟨rfl, fun required => ?_, id⟩).mono (by simp)
    have writes := (visited_of_mem opens.visits member).2
    simp [Visit.writes, required, mine.2] at writes
  have owns : Owns own 0 (inside ++ tail) := by
    rintro place ⟨mine, isOpen⟩
    exact ⟨isOpen, fun _ => cut ▸ mine⟩
  have pairs := Apart.course form course (steady.turn (.opens opens)).flush start.flush levels owns
  refine (pairs x y ?_ ownX ownY).mono grown
  -- Both stand in the subject, and nothing before it opens or after it ends does.
  have content : ∀ {z : Site}, optional z → z.2.place ∈ Ahead.innerPlaces 0 (rest ++ [Event.endDocument]) :=
    fun mine => (Ahead.ownPlaces_sublist _ _).subset mine.1
  rw [all] at order
  have kept := order.filter fun z => z.2.place ∈ Ahead.innerPlaces 0 (rest ++ [Event.endDocument])
  have outside : ∀ part : List Site, (∀ z ∈ part, z ∈ before ++ after) →
      part.filter (fun z => z.2.place ∈ Ahead.innerPlaces 0 (rest ++ [Event.endDocument])) = [] := by
    intro part among
    exact List.filter_eq_nil_iff.mpr fun z member => by simpa using elsewhere z (among z member)
  rw [List.filter_append, List.filter_append, outside before (by simp_all), outside after (by simp_all),
    List.nil_append, List.append_nil] at kept
  simpa [content ownX, content ownY] using kept.trans List.filter_sublist

end Document

/-- A page that knows a friend and has a title, with what is said `about` the friend in between. -/
def introduction (about : Node → List Event) : List Event :=
  let page : Node := { term := .var "page" }
  let friend : Node := { term := .plain "?friend" }
  let property (s : Node) (predicate : String) (o : Node) : Event := .triple ⟨s, { term := .iri predicate }, o, false⟩
  [property page "p:knows" friend, .startSubject friend] ++ about friend ++
    [.endSubject friend, property page "p:title" { term := .plain "?title" }, .endSubject page]

/-- When the friend has a name, the friend and the title are alternatives. When the friend only has another subject in
it, of which nothing is said, that leaves an empty optional clause, and the title is in the bracket of the friend. -/
theorem compile_separates_introduction :
    let page : Node := { term := .var "page" }
    let other : Node := { term := .var "other" }
    let name (friend : Node) : List Event :=
      [.triple ⟨friend, { term := .iri "p:name" }, { term := .plain "?name" }, false⟩]
    let nothing (_ : Node) : List Event := [.startSubject other, .endSubject other]
    let document (about : Node → List Event) :=
      [.startDocument] ++ ([] ++ .startSubject page :: introduction about) ++ [.endDocument]
    let optional (x : Site) :=
      x.2.place ∈ Ahead.ownPlaces 0 (introduction name ++ [.endDocument]) ∧ x.2.place.triple.isOpen = true
    let brackets (about : Node → List Event) :=
      (compile {} (document about)).map fun out => ((trace out).sites, (trace out).hollows)
    (∃ out, compile {} (document name) = .ok out ∧ brackets name = .ok ([[4, 2], [7, 4, 2], [13, 2]], []) ∧
      ∀ x y, [x, y].Sublist (sited (document name) out) → optional x → optional y → Independent [] x y) ∧
    brackets nothing = .ok ([[4, 2], [12, 4, 2]], [4]) := by
  intro page other name nothing document optional brackets
  have named : brackets name = .ok ([[4, 2], [7, 4, 2], [13, 2]], []) := by decide +kernel
  refine ⟨?_, by decide +kernel⟩
  cases compiled : compile {} (document name) with
  | error v => simp only [brackets, compiled] at named; cases named
  | ok out =>
    have hollows : (trace out).hollows = [] := by
      simp only [brackets, compiled] at named
      exact (Prod.mk.inj (Except.ok.inj named)).2
    obtain ⟨-, all⟩ := compile_separates_siblings rfl (by decide) compiled
    rw [hollows] at all
    exact ⟨out, rfl, named, all⟩

end TemplateQuery
