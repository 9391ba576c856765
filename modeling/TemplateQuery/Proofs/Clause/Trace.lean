import TemplateQuery.Proofs.Clause.Alternatives
import TemplateQuery.Proofs.Clause.Ledger

/-! A query read from the left: which brackets are open at each pattern. A bracket goes by its place in the text, so
that two brackets are never confused and a closed one never comes back. -/

set_option autoImplicit false

namespace TemplateQuery

/-- The half of a bracket that an event is. The marks of subjects are no brackets. -/
def Event.half? : Event → Option Bracket
  | whereBlock half | optional half | group half => some half
  | _ => none

def Event.isPattern : Event → Bool
  | pattern _ => true
  | _ => false

structure Trace where
  /-- The number of events read. -/
  length : Nat := 0
  /-- The brackets open now, innermost first. -/
  opens : List Nat := []
  /-- The last event that is no mark of a subject. -/
  last : Option Event := none
  /-- The brackets around each pattern, in the order of the patterns. -/
  sites : List (List Nat) := []
  /-- The brackets right around an optional clause with nothing in it. -/
  hollows : List Nat := []

namespace Trace

def read (t : Trace) (e : Event) : Trace where
  length := t.length + 1
  opens :=
    match e.half? with
    | some .opening => t.length :: t.opens
    | some .closing => t.opens.tail
    | none => t.opens
  last := if e.isMark then t.last else some e
  sites := if e.isPattern then t.sites ++ [t.opens] else t.sites
  hollows :=
    if e = .optional .closing ∧ t.last = some (.optional .opening) then t.opens.tail.head?.toList ++ t.hollows
    else t.hollows

def readAll (t : Trace) (text : List Event) : Trace := text.foldl read t

variable {t : Trace}

@[simp]
theorem readAll_nil (t : Trace) : t.readAll [] = t := rfl

@[simp]
theorem readAll_cons (t : Trace) (e : Event) (text : List Event) :
    t.readAll (e :: text) = (t.read e).readAll text := rfl

@[simp]
theorem readAll_append (t : Trace) (front back : List Event) :
    t.readAll (front ++ back) = (t.readAll front).readAll back := List.foldl_append

theorem length_readAll (t : Trace) (text : List Event) : (t.readAll text).length = t.length + text.length := by
  induction text generalizing t with
  | nil => rfl
  | cons e text ih =>
    rw [readAll_cons, ih, List.length_cons]
    simp only [read]
    omega

theorem sites_readAll (t : Trace) (text : List Event) :
    ∃ new, (t.readAll text).sites = t.sites ++ new ∧ new.length = (patterns text).length := by
  induction text generalizing t with
  | nil => exact ⟨[], by simp, rfl⟩
  | cons e text ih =>
    obtain ⟨new, same, count⟩ := ih (t.read e)
    cases e with
    | pattern p => exact ⟨t.opens :: new, by simpa [read, Event.isPattern] using same, by simpa [patterns] using count⟩
    | _ => exact ⟨new, by simpa [read, Event.isPattern] using same, by simpa [patterns] using count⟩

theorem hollows_readAll {bracket : Nat} (text : List Event) (hollow : bracket ∈ t.hollows) :
    bracket ∈ (t.readAll text).hollows := by
  induction text generalizing t with
  | nil => exact hollow
  | cons e text ih =>
    apply ih
    simp only [read]
    split
    · exact List.mem_append_right _ hollow
    · exact hollow

structure Closed (t : Trace) (bracket : Nat) : Prop where
  read : bracket < t.length
  shut : bracket ∉ t.opens

theorem Closed.readAll {bracket : Nat} (closed : t.Closed bracket) (text : List Event) :
    (t.readAll text).Closed bracket := by
  induction text generalizing t with
  | nil => exact closed
  | cons e text ih =>
    have before := closed.read
    refine ih ⟨Nat.lt_succ_of_lt before, ?_⟩
    simp only [Trace.read]
    split
    · -- The bracket opened here stands behind everything read so far.
      simp only [List.mem_cons, not_or]
      exact ⟨by omega, closed.shut⟩
    · exact fun member => closed.shut (List.mem_of_mem_tail member)
    · exact closed.shut

/-- What holds of every text: brackets stand before the place reached, and no pattern stands in an optional clause that
has just opened. -/
structure Sane (t : Trace) : Prop where
  opens : ∀ k ∈ t.opens, k < t.length
  nodup : t.opens.Nodup
  sites : ∀ site ∈ t.sites, ∀ k ∈ site, k < t.length
  fresh : t.last = some (.optional .opening) → ∃ k outer, t.opens = k :: outer ∧ ∀ site ∈ t.sites, k ∉ site

theorem sane_nil : Sane {} := ⟨by simp, by simp, by simp, by simp⟩

theorem Sane.read (sane : t.Sane) (e : Event) : (t.read e).Sane := by
  refine ⟨?_, ?_, ?_, ?_⟩
  · intro k member
    simp only [Trace.read] at member ⊢
    split at member
    · rcases List.mem_cons.mp member with rfl | old
      · exact Nat.lt_succ_self _
      · exact Nat.lt_succ_of_lt (sane.opens k old)
    · exact Nat.lt_succ_of_lt (sane.opens k (List.mem_of_mem_tail member))
    · exact Nat.lt_succ_of_lt (sane.opens k member)
  · simp only [Trace.read]
    split
    · exact List.nodup_cons.mpr ⟨fun old => Nat.lt_irrefl _ (sane.opens _ old), sane.nodup⟩
    · exact sane.nodup.sublist (List.tail_sublist _)
    · exact sane.nodup
  · intro site member k inside
    simp only [Trace.read] at member ⊢
    split at member
    · rcases List.mem_append.mp member with old | new
      · exact Nat.lt_succ_of_lt (sane.sites site old k inside)
      · rw [List.mem_singleton.mp new] at inside
        exact Nat.lt_succ_of_lt (sane.opens k inside)
    · exact Nat.lt_succ_of_lt (sane.sites site member k inside)
  · intro last
    simp only [Trace.read] at last
    split at last
    · -- A mark changes neither the brackets nor the patterns.
      next mark =>
      have plain : e.half? = none ∧ e.isPattern = false := by
        cases e <;> first | exact ⟨rfl, rfl⟩ | cases mark
      simpa [Trace.read, plain] using sane.fresh last
    · cases last
      refine ⟨t.length, t.opens, rfl, fun site member inside => ?_⟩
      exact Nat.lt_irrefl _ (sane.sites site member _ inside)

theorem Sane.readAll (sane : t.Sane) (text : List Event) : (t.readAll text).Sane := by
  induction text generalizing t with
  | nil => exact sane
  | cons e text ih => exact ih (sane.read e)

end Trace

def trace (text : List Event) : Trace := Trace.readAll {} text

namespace Session

def traced (t : Trace) (s : Session) : Trace := t.readAll s.output

variable {layout : Layout} {s : Session} {t : Trace}

theorem traced_append {s' : Session} {text : List Event} (output : s'.output = s.output ++ text) :
    s'.traced t = (s.traced t).readAll text := by
  rw [traced, output, Trace.readAll_append]
  rfl

theorem traced_block (subject : Term) :
    (s.enter layout .block (some subject)).traced t = (s.traced t).read (.startSubject { term := subject }) := by
  rw [traced_append (output_enter .block (some subject))]
  rfl

theorem traced_optional (form : layout.unionForm = true) :
    (s.enter layout .optional none).traced t = (s.traced t).read (.optional .opening) := by
  rw [traced_append (output_enter .optional none)]
  simp [separator, Clause.bracket?, form]

theorem traced_leave {f : Frame} {rest : List Frame} (top : s.stack = f :: rest) :
    (s.leave layout).traced t = (s.traced t).readAll ((f.subject.toList.map fun u => .endSubject { term := u }) ++
      (f.clause.bracket? layout).toList.map (· .closing)) := traced_append (output_leave top)

theorem traced_pattern {s' : Session} {p : Pattern} (output : s'.output = s.output ++ [Event.pattern p]) :
    s'.traced t = (s.traced t).read (.pattern p) := traced_append output

theorem opens_pattern {s' : Session} {p : Pattern} (output : s'.output = s.output ++ [Event.pattern p]) :
    (s'.traced t).opens = (s.traced t).opens := by
  rw [traced_pattern output]
  rfl

theorem sites_pattern {s' : Session} {p : Pattern} (output : s'.output = s.output ++ [Event.pattern p]) :
    (s'.traced t).sites = (s.traced t).sites ++ [(s.traced t).opens] := by
  rw [traced_pattern output]
  rfl

theorem opens_enter (clause : Clause) (subject : Option Term) :
    ∃ new, ((s.enter layout clause subject).traced t).opens = new ++ (s.traced t).opens ∧
      new.length = (clause.bracket? layout).toList.length ∧ ∀ k ∈ new, (s.traced t).length ≤ k := by
  have separated : ∃ n, (s.traced t).readAll (s.separator layout clause) =
      { (s.traced t).readAll (s.separator layout clause) with
        length := (s.traced t).length + n
        opens := (s.traced t).opens } := by
    unfold separator
    split
    · exact ⟨1, rfl⟩
    · exact ⟨0, rfl⟩
  obtain ⟨n, separated⟩ := separated
  rw [traced_append (output_enter clause subject), Trace.readAll_append, Trace.readAll_append, separated]
  cases clause with
  | block => cases subject <;> exact ⟨[], rfl, rfl, by simp⟩
  | optional =>
    cases form : layout.unionForm with
    | false =>
      refine ⟨[], ?_, by simp [Clause.bracket?, form], by simp⟩
      cases subject <;> simp [Clause.bracket?, form, Trace.read, Event.half?]
    | true =>
      refine ⟨[(s.traced t).length + n], ?_, by simp [Clause.bracket?, form], by simp⟩
      cases subject <;> simp [Clause.bracket?, form, Trace.read, Event.half?]
  | group =>
    refine ⟨[(s.traced t).length + n], ?_, by simp [Clause.bracket?], by simp⟩
    cases form : layout.unionForm <;> cases subject <;> simp [Clause.bracket?, form, Trace.read, Event.half?]

theorem sites_enter (clause : Clause) (subject : Option Term) :
    ((s.enter layout clause subject).traced t).sites = (s.traced t).sites := by
  have separated : ((s.traced t).readAll (s.separator layout clause)).sites = (s.traced t).sites := by
    unfold separator
    split <;> rfl
  rw [traced_append (output_enter clause subject), Trace.readAll_append, Trace.readAll_append, ← separated]
  cases clause <;> cases form : layout.unionForm <;> cases subject <;>
    simp [Clause.bracket?, form, Trace.read, Event.isPattern]

theorem opens_leave {f : Frame} {rest : List Frame} (top : s.stack = f :: rest) :
    ((s.leave layout).traced t).opens = (s.traced t).opens.drop (f.clause.bracket? layout).toList.length := by
  rw [traced_leave top]
  cases f.subject <;> cases f.clause <;> cases form : layout.unionForm <;>
    simp [Clause.bracket?, form, Trace.read, Event.half?]

theorem sites_leave (layout : Layout) (s : Session) (t : Trace) :
    ((s.leave layout).traced t).sites = (s.traced t).sites := by
  cases top : s.stack with
  | nil => simp [leave, top]
  | cons f rest =>
    rw [traced_leave top]
    cases f.subject <;> cases f.clause <;> cases form : layout.unionForm <;>
      simp [Clause.bracket?, form, Trace.read, Event.isPattern]

theorem leave_grows (layout : Layout) (s : Session) : ∃ text, (s.leave layout).output = s.output ++ text := by
  cases top : s.stack with
  | nil => exact ⟨[], by simp [leave, top]⟩
  | cons f rest => exact ⟨_, output_leave top⟩

theorem leaveTimes_grows (layout : Layout) (count : Nat) (s : Session) :
    ∃ text, (s.leaveTimes layout count).output = s.output ++ text := by
  induction count generalizing s with
  | zero => exact ⟨[], (List.append_nil _).symm⟩
  | succ count ih =>
    obtain ⟨first, one⟩ := leave_grows layout s
    obtain ⟨more, rest⟩ := ih (s.leave layout)
    exact ⟨first ++ more, by rw [leaveTimes, rest, one, List.append_assoc]⟩

end Session

end TemplateQuery
