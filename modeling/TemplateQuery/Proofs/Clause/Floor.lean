import TemplateQuery.Proofs.Clause.Span

/-! A floor is the lower part of the stack with the brackets that it holds open. What is opened above it is closed
before it, so as long as the floor stands, every pattern is written inside its brackets. -/

set_option autoImplicit false

namespace TemplateQuery

def Frame.width (layout : Layout) (f : Frame) : Nat := (f.clause.bracket? layout).toList.length

def brackets (layout : Layout) (frames : List Frame) : Nat := frames.foldr (fun f n => f.width layout + n) 0

def subjects (frames : List Frame) : Nat := frames.countP (·.subject.isSome)

/-- A session with the frames `above` on a floor, and the brackets of the floor open. -/
structure Above (layout : Layout) (floor : List Frame) (base : List Nat) (above : List Frame) (t : Trace)
    (s : Session) : Prop where
  stack : s.stack = above ++ floor
  opens : ∃ inner, (s.traced t).opens = inner ++ base ∧ inner.length = brackets layout above

variable {layout : Layout} {floor above : List Frame} {base : List Nat} {t t' : Trace} {s s' : Session}

namespace Above

theorem suffix (on : Above layout floor base above t s) : base <:+ (s.traced t).opens := by
  obtain ⟨inner, same, -⟩ := on.opens
  exact ⟨inner, same.symm⟩

theorem same (on : Above layout floor base above t s) (stack : s'.stack = s.stack) (output : s'.output = s.output) :
    Above layout floor base above t s' :=
  ⟨stack.trans on.stack, by rw [Session.traced, output]; exact on.opens⟩

theorem pattern {p : Pattern} (on : Above layout floor base above t s) (stack : s'.stack = s.stack)
    (output : s'.output = s.output ++ [Event.pattern p]) : Above layout floor base above t s' :=
  ⟨stack.trans on.stack, by rw [Session.opens_pattern output]; exact on.opens⟩

theorem flush (on : Above layout floor base above t s) :
    Above layout floor base above (s.traced t) { s with output := [] } := ⟨on.stack, on.opens⟩

theorem enter (on : Above layout floor base above t s) (clause : Clause) (subject : Option Term) :
    Above layout floor base (⟨clause, subject, clause.holdsUnion layout s.inUnion⟩ :: above) t
      (s.enter layout clause subject) := by
  obtain ⟨inner, same, count⟩ := on.opens
  obtain ⟨new, opened, width, _⟩ := @Session.opens_enter layout s t clause subject
  refine ⟨by simp [Session.enter, on.stack], new ++ inner, by rw [opened, same, List.append_assoc], ?_⟩
  simp [brackets, Frame.width, width] at count ⊢
  exact count

theorem leave {f : Frame} (on : Above layout floor base (f :: above) t s) :
    Above layout floor base above t (s.leave layout) := by
  obtain ⟨inner, same, count⟩ := on.opens
  have count : inner.length = f.width layout + brackets layout above := by simpa [brackets] using count
  refine ⟨Session.stack_leave on.stack, inner.drop (f.width layout), ?_, by simp [count]⟩
  rw [Session.opens_leave on.stack, same]
  exact List.drop_append_of_le_length (by rw [count]; exact Nat.le_add_right _ _)

theorem leaveTimes (gone : List Frame) (on : Above layout floor base (gone ++ above) t s) :
    Above layout floor base above t (s.leaveTimes layout gone.length) := by
  induction gone generalizing s with
  | nil => exact on
  | cons f gone ih => exact ih on.leave

end Above

/-- A session on a floor, with `depth` subjects open above it. -/
def Over (layout : Layout) (floor : List Frame) (base : List Nat) (depth : Nat) (t : Trace) (s : Session) : Prop :=
  ∃ above, Above layout floor base above t s ∧ subjects above = depth

theorem exists_innermost {depth : Nat} (count : subjects above = depth + 1) (floor : List Frame) :
    ∃ gone left, above = gone ++ left ∧ subjects left = depth ∧
      gone.length = ((above ++ floor).takeWhile (·.subject.isNone)).length + 1 := by
  induction above with
  | nil => cases count
  | cons f above ih =>
    cases subject : f.subject with
    | some u =>
      refine ⟨[f], above, rfl, ?_, by simp [subject]⟩
      simpa [subjects, subject] using count
    | none =>
      obtain ⟨gone, left, rfl, fewer, length⟩ := ih (by simpa [subjects, subject] using count)
      exact ⟨f :: gone, left, rfl, fewer, by simp [subject, length]⟩

namespace Over

variable {depth : Nat} {still : Prop} {vs : List Visit} {sites : List Site}

theorem flush (held : Over layout floor base depth t s) :
    Over layout floor base depth (s.traced t) { s with output := [] } := by
  obtain ⟨above, on, count⟩ := held
  exact ⟨above, on.flush, count⟩

theorem enter (held : Over layout floor base depth t s) (clause : Clause) :
    Over layout floor base depth t (s.enter layout clause none) := by
  obtain ⟨above, on, count⟩ := held
  exact ⟨_, on.enter clause none, by simpa [subjects] using count⟩

theorem block (held : Over layout floor base depth t s) (subject : Term) :
    Over layout floor base (depth + 1) t (s.enter layout .block (some subject)) := by
  obtain ⟨above, on, count⟩ := held
  exact ⟨_, on.enter .block (some subject), by simpa [subjects] using count⟩

theorem pattern {p : Pattern} (held : Over layout floor base depth t s) (stack : s'.stack = s.stack)
    (output : s'.output = s.output ++ [Event.pattern p]) : Over layout floor base depth t s' := by
  obtain ⟨above, on, count⟩ := held
  exact ⟨above, on.pattern stack output, count⟩

theorem leaveSubject (held : Over layout floor base (depth + 1) t s) :
    Over layout floor base depth t (s.leaveSubject layout) := by
  obtain ⟨above, on, count⟩ := held
  obtain ⟨gone, left, rfl, fewer, length⟩ := exists_innermost count floor
  refine ⟨left, ?_, fewer⟩
  rw [Session.leaveSubject, on.stack, ← length]
  exact on.leaveTimes gone

section Acts

variable {top : Frame} {under : List Frame} (solid : top.clause ≠ .group)
include solid

theorem detach (held : Over layout (top :: under) base depth t s) (dangling : s.dangling = true) :
    Over layout (top :: under) base depth t (s.leave layout) := by
  -- Only a group can be left behind, so a floor with another clause on top stands.
  obtain ⟨above, on, count⟩ := held
  rw [Session.dangling, on.stack] at dangling
  cases above with
  | nil => simp [solid] at dangling
  | cons f above =>
    refine ⟨above, on.leave, ?_⟩
    have bare : f.subject = none := by simp_all
    simpa [subjects, bare] using count

theorem act (held : Over layout (top :: under) base depth t s) (act : Act layout still s vs s') :
    Over layout (top :: under) base depth t s' := by
  cases act with
  | quiet stack _ output =>
    obtain ⟨above, on, count⟩ := held
    exact ⟨above, on.same stack output, count⟩
  | anchor =>
    obtain ⟨above, on, count⟩ := held
    rw [Session.anchor_eq_self (by simp [on.stack])]
    exact ⟨above, on, count⟩
  | detach dangling => exact held.detach solid dangling
  | optional => exact held.enter .optional
  | join p =>
    unfold Session.join
    split
    · exact (held.enter .group).pattern rfl rfl
    · exact held.pattern rfl rfl
  | alternative p => exact (held.enter .group).pattern rfl rfl
  | lone p => exact held.pattern rfl rfl

theorem acts (held : Over layout (top :: under) base depth t s) (acts : Acts layout t still s sites s') :
    Over layout (top :: under) base depth t s' ∧ ∀ site ∈ sites, base <:+ site.1 := by
  induction acts with
  | refl => exact ⟨held, by simp⟩
  | tail _ act ih =>
    have next := ih.1.act solid act
    refine ⟨next, ?_⟩
    intro site member
    rcases List.mem_append.mp member with old | new
    · exact ih.2 site old
    · obtain ⟨v, _, rfl⟩ := List.mem_map.mp new
      obtain ⟨above, on, _⟩ := next
      exact on.suffix

theorem turn {e : Event} {ahead events : List Event} {deeper : Nat} (turn : Turn layout t ahead s e sites s')
    (levels : Ahead.level depth (e :: events) = some deeper) (held : Over layout (top :: under) base depth t s) :
    ∃ next, Over layout (top :: under) base next t s' ∧ Ahead.level next events = some deeper ∧
      ∀ site ∈ sites, base <:+ site.1 := by
  -- The subjects above the floor are those opened since, so the floor's own ones stay.
  cases turn with
  | opens opens =>
    obtain ⟨subject, outside, _, left, acts⟩ := opens.acts
    obtain ⟨on, written⟩ := ((held.acts solid left).1.block subject).acts solid acts
    exact ⟨depth + 1, on, levels, written⟩
  | meets acts =>
    obtain ⟨on, written⟩ := held.acts solid acts
    exact ⟨depth, on, by simpa [Ahead.level] using levels, written⟩
  | closes =>
    cases depth with
    | zero => cases levels
    | succ depth => exact ⟨depth, held.leaveSubject, levels, by simp⟩
  | passes noStart noEnd => exact ⟨depth, held, by rwa [Ahead.level_other noStart noEnd] at levels, by simp⟩

/-- As long as no outer subject ends, all that is written stands in the brackets of the floor. -/
theorem course {events rest : List Event} {deeper : Nat} (course : Course layout rest t s events sites t' s')
    (levels : Ahead.level depth events = some deeper)
    (held : Over layout (top :: under) base depth t { s with output := [] }) : ∀ site ∈ sites, base <:+ site.1 := by
  induction course generalizing depth with
  | nil => simp
  | cons turn later ih =>
    obtain ⟨next, held, levels, first⟩ := held.turn solid turn levels
    intro site member
    rcases List.mem_append.mp member with old | new
    · exact first site old
    · exact ih levels held.flush site new

end Acts

end Over

end TemplateQuery
