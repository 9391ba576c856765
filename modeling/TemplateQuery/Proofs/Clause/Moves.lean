import Mathlib.Logic.Relation
import TemplateQuery.Proofs.Clause.Steps

/-! Every step of a compilation as a sequence of small moves on the stack of open clauses. The conditions
on the moves say where an alternative may stand, so that a property of all clauses follows from what one
move keeps. -/

set_option autoImplicit false

namespace TemplateQuery

def Term.isOpen (t : Term) : Bool :=
  match t.role with
  | .itself => t.isVar
  | _ => true

def Triple.isOpen (t : Triple) : Bool := t.partner.term.isOpen

/-- What a term resolves to depends on the names given so far; whether it is a variable does not. -/
theorem Naming.isVar_of_resolve {n : Naming} {node : Node} {triple? : Option Triple} {record : Bool} {t : Term}
    (found : (n.resolve node triple? record).1 = .ok t) : t.isVar = node.term.isOpen := by
  unfold Term.isOpen
  rcases resolve_ok (Prod.ext found rfl) with ⟨role, rfl, -⟩ | ⟨name, registry, wanted, asked, rfl, -, -⟩
  · rw [role]
  · have open_ := role_ne_itself asked
    cases role : node.term.role with
    | itself => exact absurd role open_
    | _ => rfl

theorem Naming.isOpen_of_isOptional {n : Naming} {t : Triple} {b : Bool} (found : n.isOptional t = .ok b) :
    t.isOpen = b := by
  unfold Naming.isOptional at found
  cases outcome : (n.resolve t.partner none false).1 with
  | error v => rw [outcome] at found; cases found
  | ok u =>
    rw [outcome] at found
    cases found
    exact (isVar_of_resolve outcome).symm

def Quiet : List Event → Prop
  | [] => True
  | .startSubject _ :: _ => False
  | .endSubject _ :: _ => True
  | .triple t :: rest => t.isOpen = false ∧ Quiet rest
  | _ :: rest => Quiet rest

theorem Naming.quiet_of_alone {n : Naming} {ahead : List Event} (found : n.alone ahead = .ok true) : Quiet ahead := by
  fun_induction Naming.alone n ahead with
  | case1 => trivial
  | case2 => cases found
  | case3 => trivial
  | case4 => cases found
  | case5 => cases found
  | case6 t rest optional ih => exact ⟨isOpen_of_isOptional optional, ih found⟩
  | case7 e rest _ _ _ ih =>
    rw [Quiet]
    · exact ih found
    all_goals assumption

/-- A stack as the compilation builds it: the outermost block holds alternatives, a block takes over what
is around it, a group is an alternative, and a clause is optional only where it is none. -/
def Layered (layout : Layout) : List Frame → Prop
  | [] => True
  | [outer] => outer = ⟨.block, none, true⟩
  | f :: g :: rest =>
    f.union = f.clause.holdsUnion layout g.union ∧
    (layout.unionForm = true → (f.clause = .group → g.union = true) ∧ (f.clause = .optional → g.union = false)) ∧
    Layered layout (g :: rest)

theorem Layered.tail {layout : Layout} {f : Frame} {rest : List Frame} (layered : Layered layout (f :: rest)) :
    Layered layout rest := by
  cases rest with
  | nil => trivial
  | cons g rest => exact layered.2.2

/-- One change to the clauses. Only `quiet` leaves them alone. -/
inductive Move (layout : Layout) : Session → Session → Prop where
  | quiet {s s' : Session} (stack : s'.stack = s.stack) (first : s'.first = s.first) (output : s'.output = s.output) :
      Move layout s s'
  | anchor (s : Session) : Move layout s s.anchor
  | block {s : Session} (subject : Term) (inside : s.stack ≠ []) : Move layout s (s.enter layout .block (some subject))
  | optional {s : Session} (inside : s.stack ≠ []) (apart : layout.unionForm = true → s.inUnion = false) :
      Move layout s (s.enter layout .optional none)
  | group {s : Session} (inside : s.stack ≠ []) (among : layout.unionForm = true → s.inUnion = true) :
      Move layout s (s.enter layout .group none)
  | leave (s : Session) : Move layout s (s.leave layout)
  | write {s : Session} (p : Pattern) (first : Bool) (inside : s.stack ≠ [])
      (apart : layout.unionForm = true → s.inUnion = false) : Move layout s { s.write p with first }

abbrev Moves (layout : Layout) : Session → Session → Prop := Relation.ReflTransGen (Move layout)

namespace Session

variable {layout : Layout} {s s' : Session}

theorem anchor_stack_ne_nil (s : Session) : s.anchor.stack ≠ [] := by
  unfold anchor
  split
  · simp
  · next filled => simpa using filled

theorem anchor_eq_self (inside : s.stack ≠ []) : s.anchor = s := by
  unfold anchor
  simp [inside]

theorem stack_leave {f : Frame} {rest : List Frame} (top : s.stack = f :: rest) : (s.leave layout).stack = rest := by
  unfold leave
  rw [top]

def separator (layout : Layout) (clause : Clause) (s : Session) : List Event :=
  if clause == .group && s.inUnion && !s.first && layout.unionForm then [.union] else []

theorem output_enter (clause : Clause) (subject : Option Term) :
    (s.enter layout clause subject).output = s.output ++ (s.separator layout clause ++
      (clause.bracket? layout).toList.map (· .opening) ++
      subject.toList.map fun t => .startSubject { term := t }) := rfl

theorem output_leave {f : Frame} {rest : List Frame} (top : s.stack = f :: rest) :
    (s.leave layout).output = s.output ++ ((f.subject.toList.map fun t => .endSubject { term := t }) ++
      (f.clause.bracket? layout).toList.map (· .closing)) := by
  unfold leave
  rw [top]
  rfl

theorem first_leave {f : Frame} {rest : List Frame} (top : s.stack = f :: rest) :
    (s.leave layout).first = (s.first && !(rest.head?.any (·.union) && f.clause == .group)) := by
  unfold leave
  rw [top]

theorem inUnion_enter (clause : Clause) (subject : Option Term) :
    (s.enter layout clause subject).inUnion = clause.holdsUnion layout s.inUnion := rfl

theorem rest_ne_nil_of_layered {f : Frame} {rest : List Frame} (layered : Layered layout (f :: rest))
    (clause : f.clause ≠ .block) : rest ≠ [] := by
  rintro rfl
  rw [show f = ⟨.block, none, true⟩ from layered] at clause
  exact clause rfl

theorem leave_dangling_ne_nil (layered : Layered layout s.stack) (dangling : s.dangling = true) :
    (s.leave layout).stack ≠ [] := by
  unfold Session.dangling at dangling
  cases top : s.stack with
  | nil => simp [top] at dangling
  | cons f rest =>
    rw [stack_leave top]
    rw [top] at layered
    have group : f.clause = .group := by simp_all
    exact rest_ne_nil_of_layered layered (by rw [group]; decide)

section Innermost

variable {f : Frame} {rest : List Frame} (layered : Layered layout s.stack) (form : layout.unionForm = true)
  (top : s.stack = f :: rest)

include layered top

theorem inUnion_of_block (block : f.clause = .block)
    (around : (s.leave layout).inUnion = true ∨ (s.leave layout).stack = []) : s.inUnion = true := by
  rw [inUnion, stack_leave top] at around
  rw [top] at layered
  rw [inUnion, top]
  cases rest with
  | nil => simp [show f = ⟨.block, none, true⟩ from layered]
  | cons g rest => simpa [layered.1, block, Clause.holdsUnion] using around

include form

theorem inUnion_of_optional (optional : f.clause = .optional) :
    s.inUnion = true ∧ (s.leave layout).stack ≠ [] ∧ (s.leave layout).inUnion = false := by
  -- Alternatives may stand in an optional clause and not around it.
  rw [top] at layered
  obtain ⟨g, rest, rfl⟩ :=
    List.exists_cons_of_ne_nil (rest_ne_nil_of_layered layered (by rw [optional]; decide))
  rw [inUnion, inUnion, stack_leave top, top]
  simp [layered.1, optional, Clause.holdsUnion, form, (layered.2.1 form).2 optional]

theorem inUnion_of_group (group : f.clause = .group) :
    (s.leave layout).stack ≠ [] ∧ (s.leave layout).inUnion = true := by
  rw [top] at layered
  obtain ⟨g, rest, rfl⟩ := List.exists_cons_of_ne_nil (rest_ne_nil_of_layered layered (by rw [group]; decide))
  rw [inUnion, stack_leave top]
  simp [(layered.2.1 form).1 group]

end Innermost

theorem layered_anchor (layered : Layered layout s.stack) : Layered layout s.anchor.stack := by
  unfold anchor
  split
  · exact rfl
  · exact layered

theorem layered_enter {clause : Clause} {subject : Option Term} (layered : Layered layout s.stack)
    (inside : s.stack ≠ [])
    (among : layout.unionForm = true →
      (clause = .group → s.inUnion = true) ∧ (clause = .optional → s.inUnion = false)) :
    Layered layout (s.enter layout clause subject).stack := by
  unfold enter
  unfold inUnion at *
  cases top : s.stack with
  | nil => exact absurd top inside
  | cons f rest =>
    rw [top] at layered among
    exact ⟨rfl, among, layered⟩

theorem layered_leave (layered : Layered layout s.stack) : Layered layout (s.leave layout).stack := by
  cases top : s.stack with
  | nil => unfold leave; rw [top]; simp only [top]; trivial
  | cons f rest =>
    rw [stack_leave top]
    rw [top] at layered
    exact layered.tail

end Session

variable {layout : Layout} {s s' : Session}

theorem Move.layered (move : Move layout s s') (layered : Layered layout s.stack) : Layered layout s'.stack := by
  cases move with
  | quiet stack first output => rw [stack]; exact layered
  | anchor => exact Session.layered_anchor layered
  | block subject inside => exact Session.layered_enter layered inside (by simp)
  | optional inside apart => exact Session.layered_enter layered inside (by simpa using apart)
  | group inside among => exact Session.layered_enter layered inside (by simpa using among)
  | leave => exact Session.layered_leave layered
  | write p first inside apart => exact layered

theorem Moves.layered (moves : Moves layout s s') (layered : Layered layout s.stack) : Layered layout s'.stack := by
  induction moves with
  | refl => exact layered
  | tail _ move ih => exact move.layered ih

def Grounded (layout : Layout) (s : Session) : Prop := Layered layout s.stack ∧ s.stack ≠ []

namespace Session

theorem moves_settle (layered : Layered layout s.stack) :
    Moves layout s (s.settle layout) ∧ (s.settle layout).stack ≠ [] := by
  have anchored : Move layout s s.anchor := .anchor s
  unfold settle
  simp only
  split
  · next dangling =>
    have dangling : s.anchor.dangling = true := by simp_all
    exact ⟨.tail (.single anchored) (.leave _), leave_dangling_ne_nil (layered_anchor layered) dangling⟩
  · exact ⟨.single anchored, anchor_stack_ne_nil s⟩

theorem moves_ready (layered : Layered layout s.stack) :
    Moves layout s (s.ready layout) ∧ (s.ready layout).stack ≠ [] ∧
      (layout.unionForm = true → (s.ready layout).inUnion = true) := by
  obtain ⟨moves, inside⟩ := moves_settle layered
  unfold ready
  simp only
  split
  · next needed =>
    simp only [Bool.and_eq_true, Bool.not_eq_eq_eq_not, Bool.not_true] at needed
    refine ⟨moves.tail (.optional inside fun _ => needed.1), by simp [enter], fun _ => ?_⟩
    rw [inUnion_enter]
    simp [Clause.holdsUnion, needed.2]
  · next needless =>
    refine ⟨moves, inside, fun form => ?_⟩
    simpa [form] using needless

theorem moves_alternative (p : Pattern) (first : Bool) (inside : s.stack ≠ [])
    (among : layout.unionForm = true → s.inUnion = true) :
    Moves layout s { (s.enter layout .group none).write p with first } :=
  .tail (.single (.group inside among)) (.write p first (by simp [enter]) fun _ => rfl)

theorem moves_join (p : Pattern) (inside : s.stack ≠ []) :
    Moves layout s (s.join layout p) ∧ (s.join layout p).stack ≠ [] := by
  unfold join
  split
  · next among => exact ⟨moves_alternative p _ inside fun _ => among, by simp [write, emit, enter]⟩
  · next apart => exact ⟨.single (.write p s.first inside fun _ => by simpa using apart), inside⟩

theorem moves_openSubject (subject : Term) (layered : Layered layout s.stack) :
    Moves layout s (s.openSubject layout subject) ∧ (s.openSubject layout subject).stack ≠ [] := by
  have anchored : Move layout s s.anchor := .anchor s
  unfold openSubject
  simp only
  refine ⟨?_, by simp [enter]⟩
  split
  · next dangling =>
    have dangling : s.anchor.dangling = true := by simp_all
    exact .tail (.tail (.single anchored) (.leave _))
      (.block subject (leave_dangling_ne_nil (layered_anchor layered) dangling))
  · exact .tail (.single anchored) (.block subject (anchor_stack_ne_nil s))

theorem moves_leaveTimes (count : Nat) (s : Session) : Moves layout s (s.leaveTimes layout count) := by
  induction count generalizing s with
  | zero => exact .refl
  | succ count ih => exact .head (.leave s) (ih (s.leave layout))

theorem inUnion_join (p : Pattern) (s : Session) : (s.join layout p).inUnion = false := by
  -- A required pattern among alternatives gets a group of its own, so afterwards it is apart from them.
  unfold join
  split
  · rfl
  · next apart => simpa [inUnion, write, emit] using apart

theorem previous_join (p : Pattern) (s : Session) : (s.join layout p).previous = some p := by
  unfold join
  split <;> rfl

theorem moves_naming (n : Naming) (s : Session) : Moves layout s { s with naming := n } :=
  .single (.quiet rfl rfl rfl)

end Session

namespace Compile

open Session

theorem moves_forM {α : Type} {f : α → Compile Unit} {xs : List α}
    (step : ∀ x s s', Grounded layout s → f x s = (.ok (), s') → Moves layout s s' ∧ s'.stack ≠ [])
    (grounded : Grounded layout s) (ran : xs.forM f s = (.ok (), s')) : Moves layout s s' ∧ s'.stack ≠ [] := by
  induction xs generalizing s with
  | nil => cases ran; exact ⟨.refl, grounded.2⟩
  | cons x xs ih =>
    obtain ⟨mid, first, later⟩ := forM_cons_ok ran
    obtain ⟨before, inside⟩ := step x s mid grounded first
    obtain ⟨after, inside'⟩ := ih ⟨before.layered grounded.1, inside⟩ later
    exact ⟨before.trans after, inside'⟩

theorem moves_require {t : Triple} (grounded : Grounded layout s) (ran : require layout t s = (.ok (), s')) :
    Moves layout s s' ∧ s'.stack ≠ [] := by
  rcases require_ok ran with ⟨-, rfl⟩ | ⟨p, n, -, -, rfl⟩
  · exact ⟨.refl, grounded.2⟩
  · obtain ⟨moves, inside⟩ := @moves_join layout { s with naming := n } p grounded.2
    exact ⟨(moves_naming n s).trans moves, inside⟩

theorem quiet_of_look {first : Bool} {ahead? : Option (List Event)} {n : Naming}
    (looked : (if first then ahead?.elim (.ok false) n.alone else .ok false) = .ok true) :
    first = true ∧ ∃ ahead, ahead? = some ahead ∧ Quiet ahead := by
  -- Only a look at the events ahead can find that a triple stands alone.
  cases first with
  | false => cases looked
  | true =>
    cases ahead? with
    | none => cases looked
    | some ahead => exact ⟨rfl, ahead, rfl, Naming.quiet_of_alone looked⟩

/-- A triple makes moves, or is written into an optional clause that holds nothing else; then nothing
that follows in its subject can be written there. -/
theorem moves_statement {ahead? : Option (List Event)} {t : Triple} (layered : Layered layout s.stack)
    (ran : statement layout ahead? t s = (.ok (), s')) :
    (Moves layout s s' ∧ (s.stack ≠ [] → s'.stack ≠ [])) ∨
    ∃ ahead mid p, ahead? = some ahead ∧ Quiet ahead ∧ layout.unionForm = true ∧ Moves layout s mid ∧
      mid.inOptional = true ∧ mid.first = true ∧ s' = { mid.write p with first := false } := by
  rcases statement_ok ran with ⟨-, rfl⟩ | ⟨p, n, -, -, ⟨-, rfl⟩ | ⟨lone, -, looked, rfl⟩⟩
  · exact .inl ⟨.refl, id⟩
  · obtain ⟨moves, inside⟩ := @moves_settle layout { s with naming := n } layered
    exact .inl ⟨(moves_naming n s).trans moves, fun _ => inside⟩
  · obtain ⟨moves, inside, among⟩ := @moves_ready layout { s with naming := n } layered
    replace moves := (moves_naming n s).trans moves
    generalize { s with naming := n }.ready layout = mid at looked moves inside among
    unfold place
    split
    · next only =>
      obtain ⟨rfl, inOptional⟩ := (Bool.and_eq_true _ _).mp only
      obtain ⟨first, ahead, rfl, quiet⟩ := quiet_of_look looked
      -- Without alternatives this is a plain write. With them it is no move: the next group would lack its union.
      by_cases form : layout.unionForm = true
      · exact .inr ⟨ahead, mid, p, rfl, quiet, form, moves, inOptional, first, rfl⟩
      · exact .inl ⟨moves.tail (.write p false inside fun on => absurd on form), fun _ => inside⟩
    · exact .inl ⟨moves.trans (moves_alternative p false inside among), fun _ => by simp [write, emit, enter]⟩

theorem moves_forward {t : Triple} (grounded : Grounded layout s) (ran : statement layout none t s = (.ok (), s')) :
    Moves layout s s' ∧ s'.stack ≠ [] := by
  rcases moves_statement grounded.1 ran with ⟨moves, inside⟩ | ⟨_, _, _, ahead, _⟩
  · exact ⟨moves, inside grounded.2⟩
  · cases ahead

theorem moves_startSubject {node : Node} {ahead : List Event} (layered : Layered layout s.stack)
    (ran : startSubject layout node ahead s = (.ok (), s')) : Moves layout s s' := by
  obtain ⟨subject, n, written, lone, -, required, looked, brought⟩ := startSubject_ok ran
  obtain ⟨opened, inside⟩ := @moves_openSubject layout { s with naming := n } subject layered
  replace opened := (moves_naming n s).trans opened
  obtain ⟨joined, inside⟩ := moves_forM (fun _ _ _ => moves_require) ⟨Moves.layered opened layered, inside⟩ required
  replace joined := opened.trans joined
  have room : Moves layout s { (if lone then written else written.enter layout .optional none) with previous := none } ∧
      (if lone then written else written.enter layout .optional none).stack ≠ [] := by
    cases lone with
    | true => exact ⟨joined.tail (.quiet rfl rfl rfl), inside⟩
    | false =>
      -- An optional clause is opened only for a subject that continues a pattern, never among alternatives.
      have apart := apart_of_room looked
      exact ⟨(joined.tail (.optional inside fun _ => apart)).tail (.quiet rfl rfl rfl), by simp [enter]⟩
  obtain ⟨forward, _⟩ := moves_forM (fun _ _ _ => moves_forward) ⟨Moves.layered room.1 layered, room.2⟩ brought
  exact room.1.trans forward

end Compile

end TemplateQuery
