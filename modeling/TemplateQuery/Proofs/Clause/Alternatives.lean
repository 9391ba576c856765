import Mathlib.Data.List.Chain
import TemplateQuery.Proofs.Clause.Nesting

/-! Alternatives of a union stand side by side with `union` between them and nowhere else. One flag of the
session decides where it is written. The invariant ties that flag to the last event of the text: where
alternatives may follow, the flag is down exactly after a closed alternative. The one exception is an
optional clause with a single pattern in it, and it lasts until that clause is closed. -/

set_option autoImplicit false

namespace TemplateQuery

namespace Event

def isMark : Event → Bool
  | startSubject _ | endSubject _ => true
  | _ => false

def isClause (unionForm : Bool) : Event → Bool
  | startSubject _ | endSubject _ | pattern _ | optional _ => true
  | group _ | union => unionForm
  | _ => false

end Event

def visible (events : List Event) : List Event := events.filter fun e => !e.isMark

@[simp]
theorem visible_append (front back : List Event) : visible (front ++ back) = visible front ++ visible back :=
  List.filter_append ..

def Beside (a b : Event) : Prop :=
  (b = .union → a = .group .closing) ∧ (a = .union → b = .group .opening) ∧
    (a = .group .closing → b ≠ .group .opening)

/-- Alternatives are set off from each other, and nothing else is. -/
structure Separated (events : List Event) : Prop where
  chain : events.IsChain Beside
  head : events.head? ≠ some .union
  last : events.getLast? ≠ some .union

namespace Separated

variable {events : List Event}

theorem nil : Separated [] := ⟨.nil, by simp, by simp⟩

theorem snoc {e : Event} (separated : Separated events) (other : e ≠ .union)
    (apart : events.getLast? = some (.group .closing) → e ≠ .group .opening) : Separated (events ++ [e]) := by
  refine ⟨List.isChain_append.mpr ⟨separated.chain, List.isChain_singleton e, ?_⟩, ?_, by simpa using other⟩
  · intro a atEnd b atStart
    simp only [List.head?_cons, Option.mem_def, Option.some.injEq] at atStart
    subst atStart
    refine ⟨fun union => absurd union other, ?_, ?_⟩
    · rintro rfl
      exact absurd atEnd separated.last
    · rintro rfl
      exact apart atEnd
  · cases events with
    | nil => simpa using other
    | cons a rest => exact separated.head

theorem alternative (separated : Separated events) (closed : events.getLast? = some (.group .closing)) :
    Separated (events ++ [Event.union, .group .opening]) := by
  refine ⟨List.isChain_append.mpr ⟨separated.chain, ?_, ?_⟩, ?_, by simp⟩
  · simp [Beside]
  · intro a atEnd b atStart
    rw [closed] at atEnd
    simp only [List.head?_cons, Option.mem_def, Option.some.injEq] at atStart atEnd
    subst atStart atEnd
    simp [Beside]
  · cases events with
    | nil => simp at closed
    | cons a rest => exact separated.head

theorem append {more : List Event} (separated : Separated events)
    (plain : ∀ e ∈ more, e ≠ .union ∧ e ≠ .group .opening) : Separated (events ++ more) := by
  induction more generalizing events with
  | nil => simpa using separated
  | cons e more ih =>
    obtain ⟨other, apart⟩ := plain e (by simp)
    have longer := ih (separated.snoc other fun _ => apart) fun d member => plain d (by simp [member])
    simpa using longer

theorem behind {front : List Event} (separated : Separated events)
    (plain : ∀ e ∈ front, e ≠ .union ∧ ∀ half, e ≠ .group half) (filled : front ≠ []) :
    Separated (front ++ events) := by
  have before : Separated front := by
    simpa using Separated.nil.append fun e member => ⟨(plain e member).1, (plain e member).2 .opening⟩
  refine ⟨List.isChain_append.mpr ⟨before.chain, separated.chain, ?_⟩, ?_, ?_⟩
  · intro a atEnd b atStart
    obtain ⟨other, apart⟩ := plain a (List.mem_of_getLast? atEnd)
    refine ⟨?_, fun union => absurd union other, fun closing => absurd closing (apart .closing)⟩
    rintro rfl
    exact absurd atStart separated.head
  · rw [List.head?_append_of_ne_nil _ filled]
    exact before.head
  · cases events with
    | nil => simpa using before.last
    | cons e events => simpa [List.getLast?_append] using separated.last

theorem around_union {front back : List Event} (separated : Separated (front ++ Event.union :: back)) :
    front.getLast? = some (.group .closing) ∧ back.head? = some (.group .opening) := by
  obtain ⟨_, after, between⟩ := List.isChain_append.mp separated.chain
  constructor
  · cases last : front.getLast? with
    | none =>
      rw [List.getLast?_eq_none_iff.mp last] at separated
      exact absurd rfl separated.head
    | some a => rw [(between a last .union rfl).1 rfl]
  · cases back with
    | nil => exact absurd (by simp) separated.last
    | cons b back =>
      obtain ⟨beside, _⟩ := List.isChain_cons_cons.mp after
      rw [List.head?_cons, beside.2.1 rfl]

theorem no_adjacent_groups {front back : List Event} (separated : Separated events) :
    events ≠ front ++ Event.group .closing :: .group .opening :: back := by
  rintro rfl
  obtain ⟨_, after, _⟩ := List.isChain_append.mp separated.chain
  obtain ⟨beside, _⟩ := List.isChain_cons_cons.mp after
  exact beside.2.2 rfl rfl

end Separated

/-- A text written so far, with the clauses of the session still open in it. -/
structure Written (layout : Layout) (before : List Event) (s : Session) : Prop where
  layered : Layered layout s.stack
  unclosed : Unclosed (pendingOf layout s.stack) (before ++ s.output)
  clauses : ∀ e ∈ before ++ s.output, e.isClause layout.unionForm = true
  separated : layout.unionForm = true → Separated (visible (before ++ s.output))

/-- Where alternatives may follow, the next group is the first of its union unless one has just closed. -/
def Timely (layout : Layout) (before : List Event) (s : Session) : Prop :=
  layout.unionForm = true → s.inUnion = true ∨ s.stack = [] →
    (s.first = true ↔ (visible (before ++ s.output)).getLast? ≠ some (.group .closing))

variable {layout : Layout} {s s' : Session} {before : List Event}

theorem Clause.isClause_bracket? {clause : Clause} {half : Bracket → Event}
    (bracket : clause.bracket? layout = some half) (side : Bracket) : (half side).isClause layout.unionForm = true := by
  cases clause with
  | block => cases bracket
  | optional =>
    simp only [Clause.bracket?] at bracket
    split at bracket <;> cases bracket
    rfl
  | group =>
    simp only [Clause.bracket?] at bracket
    split at bracket <;> cases bracket
    · assumption
    · rfl

theorem Session.clauses_enter (clause : Clause) (subject : Option Term)
    (clauses : ∀ e ∈ before ++ s.output, e.isClause layout.unionForm = true) :
    ∀ e ∈ before ++ (s.enter layout clause subject).output, e.isClause layout.unionForm = true := by
  intro e member
  rw [output_enter, ← List.append_assoc] at member
  rcases List.mem_append.mp member with old | new
  · exact clauses e old
  simp only [List.mem_append] at new
  rcases new with (union | opened) | marked
  · unfold separator at union
    split at union
    · next on => simp_all [Event.isClause]
    · cases union
  · obtain ⟨half, bracket, rfl⟩ := List.mem_map.mp opened
    exact Clause.isClause_bracket? (Option.mem_toList.mp bracket) .opening
  · obtain ⟨t, _, rfl⟩ := List.mem_map.mp marked
    rfl

theorem Session.clauses_leave (clauses : ∀ e ∈ before ++ s.output, e.isClause layout.unionForm = true) :
    ∀ e ∈ before ++ (s.leave layout).output, e.isClause layout.unionForm = true := by
  cases top : s.stack with
  | nil => simpa [leave, top] using clauses
  | cons f rest =>
    intro e member
    rw [output_leave top, ← List.append_assoc] at member
    rcases List.mem_append.mp member with old | new
    · exact clauses e old
    rcases List.mem_append.mp new with marked | closed
    · obtain ⟨t, _, rfl⟩ := List.mem_map.mp marked
      rfl
    · obtain ⟨half, bracket, rfl⟩ := List.mem_map.mp closed
      exact Clause.isClause_bracket? (Option.mem_toList.mp bracket) .closing

@[simp]
theorem visible_starts (subject : Option Term) :
    visible (subject.toList.map fun t => .startSubject { term := t }) = [] := by cases subject <;> rfl

@[simp]
theorem visible_ends (subject : Option Term) :
    visible (subject.toList.map fun t => .endSubject { term := t }) = [] := by cases subject <;> rfl

@[simp]
theorem visible_brackets (clause : Clause) (side : Bracket) :
    visible ((clause.bracket? layout).toList.map (· side)) = (clause.bracket? layout).toList.map (· side) := by
  cases clause <;> cases form : layout.unionForm <;> simp [Clause.bracket?, form, visible, Event.isMark]

theorem Session.visible_enter (clause : Clause) (subject : Option Term) :
    visible (before ++ (s.enter layout clause subject).output) =
      visible (before ++ s.output) ++
        (s.separator layout clause ++ (clause.bracket? layout).toList.map (· .opening)) := by
  have union : visible (s.separator layout clause) = s.separator layout clause := by
    unfold separator
    split <;> rfl
  simp [output_enter, union]

theorem Session.visible_leave {f : Frame} {rest : List Frame} (top : s.stack = f :: rest) :
    visible (before ++ (s.leave layout).output) =
      visible (before ++ s.output) ++ (f.clause.bracket? layout).toList.map (· .closing) := by
  simp [output_leave top]

theorem Written.leave (written : Written layout before s) : Written layout before (s.leave layout) where
  layered := Session.layered_leave written.layered
  unclosed := Session.unclosed_leave written.unclosed
  clauses := Session.clauses_leave written.clauses
  separated := by
    intro form
    have separated := written.separated form
    cases top : s.stack with
    | nil => simpa [Session.leave, top] using separated
    | cons f rest =>
      rw [Session.visible_leave top]
      apply separated.append
      intro e member
      cases clause : f.clause <;> simp_all [Clause.bracket?]

theorem Written.write {p : Pattern} {first : Bool} (written : Written layout before s) :
    Written layout before { s.write p with first } where
  layered := written.layered
  unclosed := by simpa [Session.write, Session.emit] using written.unclosed.plain (e := .pattern p) rfl
  clauses := by
    intro e member
    have : e ∈ before ++ s.output ∨ e = .pattern p := by simpa [Session.write, Session.emit, or_assoc] using member
    rcases this with old | rfl
    · exact written.clauses e old
    · rfl
  separated := by
    intro form
    have : visible (before ++ (s.write p).output) = visible (before ++ s.output) ++ [Event.pattern p] := by
      simp [Session.write, Session.emit, visible, Event.isMark]
    rw [this]
    exact (written.separated form).snoc (by simp) (by simp)

theorem Written.enter {clause : Clause} {subject : Option Term} (written : Written layout before s)
    (timely : Timely layout before s) (inside : s.stack ≠ [])
    (among : layout.unionForm = true →
      (clause = .group → s.inUnion = true) ∧ (clause = .optional → s.inUnion = false)) :
    Written layout before (s.enter layout clause subject) where
  layered := Session.layered_enter written.layered inside among
  unclosed := Session.unclosed_enter clause subject written.unclosed
  clauses := Session.clauses_enter clause subject written.clauses
  separated := by
    intro form
    have separated := written.separated form
    rw [Session.visible_enter]
    cases clause with
    | block => simpa [Session.separator, Clause.bracket?] using separated
    | optional => simpa [Session.separator, Clause.bracket?, form] using separated.snoc (by simp) (by simp)
    | group =>
      have union : s.inUnion = true := (among form).1 rfl
      have phase := timely form (.inl union)
      cases first : s.first with
      | true =>
        -- No separator is written, and none is needed: the text does not end in an alternative.
        have apart := phase.mp first
        simpa [Session.separator, Clause.bracket?, form, first] using
          separated.snoc (e := .group .opening) (by simp) fun closed => absurd closed apart
      | false =>
        have closed : (visible (before ++ s.output)).getLast? = some (.group .closing) := by
          by_contra apart
          exact absurd (phase.mpr apart) (by simp [first])
        simpa [Session.separator, Clause.bracket?, form, first, union] using separated.alternative closed

theorem Timely.enter {clause : Clause} {subject : Option Term} (timely : Timely layout before s) :
    Timely layout before (s.enter layout clause subject) := by
  intro form union
  have union : clause.holdsUnion layout s.inUnion = true := by simpa [Session.enter, Session.inUnion] using union
  rw [Session.visible_enter]
  cases clause with
  | block => simpa [Session.separator, Clause.bracket?, Session.enter] using timely form (.inl union)
  | optional => simp [Session.separator, Clause.bracket?, form, Session.enter]
  | group => cases union

/-- A block leaves the text as it is and a group leaves a closed alternative behind. An optional clause
stands where no alternatives may follow. -/
theorem Timely.leave (layered : Layered layout s.stack)
    (timely : (∀ f ∈ s.stack.head?, f.clause = .block) → Timely layout before s) :
    Timely layout before (s.leave layout) := by
  intro form union
  cases top : s.stack with
  | nil =>
    have same : s.leave layout = s := by simp [Session.leave, top]
    rw [same] at union ⊢
    exact timely (by simp [top]) form union
  | cons f rest =>
    rw [Session.visible_leave top, Session.first_leave top]
    cases clause : f.clause with
    | block =>
      have around := Session.inUnion_of_block layered top clause union
      simpa [clause, Clause.bracket?] using timely (by simp [top, clause]) form (.inl around)
    | optional =>
      obtain ⟨-, filled, apart⟩ := Session.inUnion_of_optional layered form top clause
      simp [filled, apart] at union
    | group =>
      obtain ⟨-, among⟩ := Session.inUnion_of_group layered form top clause
      rw [Session.inUnion, Session.stack_leave top] at among
      simp [Clause.bracket?, form, among]

structure Standing (layout : Layout) (before : List Event) (s : Session) : Prop extends Written layout before s where
  timely : Timely layout before s

/-- A text written so far that ends in the only pattern of an optional clause. -/
structure Lone (layout : Layout) (before : List Event) (s : Session) : Prop extends Written layout before s where
  inOptional : s.inOptional = true

theorem Move.standing (move : Move layout s s') (standing : Standing layout before s) : Standing layout before s' := by
  obtain ⟨written, timely⟩ := standing
  cases move with
  | quiet stack first output =>
    refine ⟨⟨?_, ?_, ?_, ?_⟩, ?_⟩
    · rw [stack]; exact written.layered
    · rw [stack, output]; exact written.unclosed
    · rw [output]; exact written.clauses
    · rw [output]; exact written.separated
    · unfold Timely Session.inUnion
      rw [stack, first, output]
      exact timely
  | anchor =>
    by_cases empty : s.stack = []
    · have pending : Unclosed [] (before ++ s.output) := by simpa [empty, pendingOf] using written.unclosed
      have anchored : s.anchor = { s with stack := [⟨.block, none, true⟩] } := by simp [Session.anchor, empty]
      rw [anchored]
      exact ⟨⟨rfl, pending, written.clauses, written.separated⟩, fun form _ => timely form (.inr empty)⟩
    · rw [Session.anchor_eq_self empty]
      exact ⟨written, timely⟩
  | block subject inside => exact ⟨written.enter timely inside (by simp), timely.enter⟩
  | optional inside apart => exact ⟨written.enter timely inside (by simpa using apart), timely.enter⟩
  | group inside among => exact ⟨written.enter timely inside (by simpa using among), timely.enter⟩
  | leave => exact ⟨written.leave, .leave written.layered fun _ => timely⟩
  | write p first inside apart =>
    refine ⟨written.write, fun form union => ?_⟩
    -- A pattern is only written apart from alternatives, where nothing is asked of the next group.
    have union : s.inUnion = true ∨ s.stack = [] := union
    simp [apart form, inside] at union

theorem Moves.standing (moves : Moves layout s s') (standing : Standing layout before s) :
    Standing layout before s' := by
  induction moves with
  | refl => exact standing
  | tail _ move ih => exact move.standing ih

theorem Standing.lone {p : Pattern} (standing : Standing layout before s) (inOptional : s.inOptional = true) :
    Lone layout before { s.write p with first := false } := ⟨standing.toWritten.write, inOptional⟩

theorem Lone.leave (lone : Lone layout before s) : Standing layout before (s.leave layout) := by
  refine ⟨lone.toWritten.leave, .leave lone.layered fun block => ?_⟩
  have inOptional := lone.inOptional
  unfold Session.inOptional at inOptional
  cases top : s.stack with
  | nil => simp [top] at inOptional
  | cons f rest => simp_all

end TemplateQuery
