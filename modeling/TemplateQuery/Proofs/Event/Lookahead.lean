import TemplateQuery.Event.Buffer

/-! Calls of a buffer. What a buffer answers depends on the events still to come alone, not on how many of them it
holds, so that looking ahead changes no later answer. It has pulled what the deepest look so far asked for and nothing
beyond. Only a look at the greatest offset there is has no answer, and nothing is called after it. -/

set_option autoImplicit false

namespace TemplateQuery.Event.Buffer

variable {b b' : Buffer} {events : List Event}

def ahead (b : Buffer) : List Event := b.held ++ b.source

theorem length_ahead (b : Buffer) : b.ahead.length = b.size + b.source.length := List.length_append

theorem held_eq_take (b : Buffer) : b.held = b.ahead.take b.size := List.take_left.symm

theorem source_eq_drop (b : Buffer) : b.source = b.ahead.drop b.size := List.drop_left.symm

@[simp] theorem ahead_fill (b : Buffer) (count : Nat) : (b.fill count).ahead = b.ahead := by
  simp [ahead, fill]

theorem size_fill (b : Buffer) (count : Nat) : (b.fill count).size = max b.size (min count b.ahead.length) := by
  simp only [size, fill, ahead, List.length_append, List.length_take]
  omega

theorem unpulled_fill (b : Buffer) (count : Nat) :
    (b.fill count).source.length = min b.source.length (b.ahead.length - count) := by
  simp only [fill, ahead, List.length_append, List.length_drop]
  omega

theorem getElem?_held_fill (b : Buffer) (offset : Nat) : (b.fill (offset + 1)).held[offset]? = b.ahead[offset]? := by
  have size := size_fill b (offset + 1)
  rw [held_eq_take, ahead_fill, List.getElem?_take]
  split
  · rfl
  · rw [List.getElem?_eq_none (by omega)]

theorem next_fst (b : Buffer) : b.next.1 = b.ahead.head? := by
  simpa [next, List.head?_eq_getElem?] using getElem?_held_fill b 0

theorem ahead_next (b : Buffer) : b.next.2.ahead = b.ahead.tail := by
  obtain ⟨held, source⟩ := b
  cases held <;> cases source <;> simp [next, fill, ahead]

/-! ## One call -/

inductive Call where
  | peek (offset : UInt64)
  | next
  deriving DecidableEq, Repr

namespace Call

def sought (ahead : List Event) : Call → Option Event
  | peek offset => ahead[offset.toNat]?
  | next => ahead.head?

def remaining (ahead : List Event) : Call → List Event
  | peek _ => ahead
  | next => ahead.tail

/-- How many of the events to come are to be held when the call is answered. -/
def demand : Call → Nat
  | peek offset => offset.toNat + 1
  | next => 1

def isFarthest (call : Call) : Bool := UInt64.size ≤ call.demand

end Call

def respond (b : Buffer) : Call → Option (Option Event × Buffer)
  | .peek offset => b.peek offset
  | .next => some b.next

theorem respond_eq_none_iff {call : Call} : b.respond call = none ↔ call.isFarthest = true := by
  rw [Call.isFarthest, decide_eq_true_iff]
  cases call with
  | peek offset => simp [respond, peek, Call.demand]
  | next => simp [respond, Call.demand, UInt64.size]

/-- All that a call does: it gives what it asks for, and pulls what is missing up to its demand. -/
theorem of_respond {call : Call} {answer : Option Event} (responds : b.respond call = some (answer, b')) :
    answer = call.sought b.ahead ∧ b'.ahead = call.remaining b.ahead ∧
      b'.source.length = min b.source.length (b.ahead.length - call.demand) := by
  cases call with
  | peek offset =>
    obtain ⟨-, same⟩ := Option.ite_none_right_eq_some.mp responds
    cases same
    exact ⟨getElem?_held_fill b _, ahead_fill b _, unpulled_fill b _⟩
  | next =>
    cases responds
    exact ⟨next_fst b, ahead_next b, unpulled_fill b 1⟩

/-! ## Calls one after the other -/

def answers (b : Buffer) : List Call → Option (List (Option Event))
  | [] => some []
  | call :: later => do
    let (answer, b) ← b.respond call
    return answer :: (← b.answers later)

theorem answers_congr (same : b.ahead = b'.ahead) (later : List Call) : b.answers later = b'.answers later := by
  induction later generalizing b b' with
  | nil => rfl
  | cons call later ih =>
    simp only [answers]
    cases first : b.respond call with
    | none =>
      have second : b'.respond call = none := respond_eq_none_iff.mpr (respond_eq_none_iff.mp first)
      rw [second]
    | some response =>
      obtain ⟨answer, c⟩ := response
      have near : ¬ call.isFarthest = true := fun far => by simp [respond_eq_none_iff.mpr far] at first
      obtain ⟨⟨answer', c'⟩, second⟩ : ∃ response, b'.respond call = some response :=
        Option.ne_none_iff_exists'.mp (mt respond_eq_none_iff.mp near)
      obtain ⟨gives, leaves, -⟩ := of_respond first
      obtain ⟨gives', leaves', -⟩ := of_respond second
      rw [same] at gives leaves
      rw [second]
      simp only [Option.bind_eq_bind, Option.bind_some, gives, gives', ih (leaves.trans leaves'.symm)]

def after (events : List Event) : List Call → Option Buffer
  | [] => some (ofSource events)
  | call :: past => do
    let b ← after events past
    let (_, b) ← b.respond call
    return b

def taken (total : Nat) (past : List Call) : Nat := min total (past.count .next)

/-- How many of so many events the deepest of the calls asked to see, each with the events taken before it. -/
def deepest (total : Nat) : List Call → Nat
  | [] => 0
  | call :: past => max (taken total past + call.demand) (deepest total past)

theorem after_eq_none_iff (events : List Event) (past : List Call) :
    after events past = none ↔ past.any Call.isFarthest = true := by
  induction past with
  | nil => simp [after]
  | cons call past ih =>
    rw [List.any_cons, Bool.or_eq_true, ← ih, after]
    cases before : after events past with
    | none => simp
    | some b =>
      rw [← respond_eq_none_iff (b := b)]
      cases response : b.respond call <;> simp [response]

theorem of_after_cons {call : Call} {past : List Call} (called : after events (call :: past) = some b') :
    ∃ b answer, after events past = some b ∧ b.respond call = some (answer, b') := by
  obtain ⟨b, before, called⟩ := Option.bind_eq_some_iff.mp called
  obtain ⟨⟨answer, b''⟩, responds, same⟩ := Option.bind_eq_some_iff.mp called
  cases same
  exact ⟨b, answer, before, responds⟩

theorem ahead_after {past : List Call} (called : after events past = some b) :
    b.ahead = events.drop (past.count .next) := by
  induction past generalizing b with
  | nil => cases called; rfl
  | cons call past ih =>
    obtain ⟨c, answer, before, responds⟩ := of_after_cons called
    rw [(of_respond responds).2.1, ih before]
    cases call <;> simp [Call.remaining]

theorem drop_taken (events : List Event) (past : List Call) :
    events.drop (taken events.length past) = events.drop (past.count .next) := by
  rcases Nat.le_total events.length (past.count .next) with all | some
  · rw [taken, Nat.min_eq_left all, List.drop_length, List.drop_eq_nil_of_le all]
  · rw [taken, Nat.min_eq_right some]

theorem taken_add_size {past : List Call} (called : after events past = some b) :
    taken events.length past + b.size = events.length - b.source.length := by
  have whole := length_ahead b
  rw [ahead_after called, List.length_drop] at whole
  unfold taken
  omega

theorem unpulled_after {past : List Call} (called : after events past = some b) :
    b.source.length = events.length - deepest events.length past := by
  induction past generalizing b with
  | nil => cases called; rfl
  | cons call past ih =>
    obtain ⟨c, answer, before, responds⟩ := of_after_cons called
    have whole := length_ahead c
    rw [ahead_after before, List.length_drop, ih before] at whole
    rw [(of_respond responds).2.2, ih before, ahead_after before, List.length_drop, deepest, taken]
    omega

end TemplateQuery.Event.Buffer
