import TemplateQuery.Clause.Compiler
import TemplateQuery.Proofs.Event.Lookahead

/-! Compilation from a buffer. The event to compile is taken from the buffer, and the events after it are looked at one
by one, each at its offset. What is compiled so is what is compiled from the list of the events to come. -/

set_option autoImplicit false

namespace TemplateQuery

namespace Event.Buffer

/-- Looks at one offset after the other, up to the first where there is no event, find these events. -/
inductive Finds : Buffer → UInt64 → List Event → Buffer → Prop
  | nothing {b b' : Buffer} {offset : UInt64} (look : b.peek offset = some (none, b')) : Finds b offset [] b'
  | event {b b' b'' : Buffer} {offset : UInt64} {e : Event} {later : List Event}
    (look : b.peek offset = some (some e, b')) (rest : Finds b' (offset + 1) later b'') :
    Finds b offset (e :: later) b''

variable {b b' : Buffer} {offset : UInt64} {events : List Event}

theorem of_peek {look : Option Event} (looked : b.peek offset = some (look, b')) :
    look = b.ahead[offset.toNat]? ∧ b'.ahead = b.ahead :=
  have responds : b.respond (.peek offset) = some (look, b') := looked
  ⟨(of_respond responds).1, (of_respond responds).2.1⟩

theorem exists_peek (few : b.ahead.length + 1 < UInt64.size) (within : offset.toNat ≤ b.ahead.length) :
    ∃ b', b.peek offset = some (b.ahead[offset.toNat]?, b') ∧ b'.ahead = b.ahead := by
  have counted : offset.toNat + 1 < UInt64.size := by omega
  refine ⟨b.fill (offset.toNat + 1), ?_, ahead_fill b _⟩
  rw [← getElem?_held_fill]
  exact if_pos counted

theorem toNat_succ (few : b.ahead.length + 1 < UInt64.size) (within : offset.toNat < b.ahead.length) :
    (offset + 1).toNat = offset.toNat + 1 := by
  rw [UInt64.toNat_add]
  exact Nat.mod_eq_of_lt (by simp [UInt64.size] at few ⊢; omega)

theorem Finds.eq_drop (finds : Finds b offset events b') (few : b.ahead.length + 1 < UInt64.size) :
    events = b.ahead.drop offset.toNat ∧ b'.ahead = b.ahead := by
  induction finds with
  | nothing look =>
    obtain ⟨found, same⟩ := of_peek look
    exact ⟨(List.drop_eq_nil_of_le (List.getElem?_eq_none_iff.mp found.symm)).symm, same⟩
  | event look rest ih =>
    obtain ⟨found, same⟩ := of_peek look
    obtain ⟨within, here⟩ := List.getElem?_eq_some_iff.mp found.symm
    obtain ⟨rfl, same'⟩ := ih (by rwa [same])
    rw [same, toNat_succ few within, ← here]
    exact ⟨List.getElem_cons_drop within, same'.trans same⟩

theorem exists_finds (few : b.ahead.length + 1 < UInt64.size) (within : offset.toNat ≤ b.ahead.length) :
    ∃ events b', Finds b offset events b' := by
  -- Each look leaves fewer events behind its offset.
  induction left : b.ahead.length - offset.toNat generalizing b offset with
  | zero =>
    obtain ⟨b', look, -⟩ := exists_peek few within
    rw [List.getElem?_eq_none (by omega)] at look
    exact ⟨[], b', .nothing look⟩
  | succ left ih =>
    have inside : offset.toNat < b.ahead.length := by omega
    obtain ⟨b', look, same⟩ := exists_peek few within
    rw [List.getElem?_eq_getElem inside] at look
    have next := toNat_succ few inside
    obtain ⟨events, b'', rest⟩ := @ih b' (offset + 1) (by rwa [same]) (by rw [same]; omega) (by rw [same]; omega)
    exact ⟨_, b'', .event look rest⟩

theorem exists_finds_ahead (few : b.ahead.length + 1 < UInt64.size) :
    ∃ b', Finds b 0 b.ahead b' ∧ b'.ahead = b.ahead := by
  obtain ⟨events, b', finds⟩ := @exists_finds b 0 few (Nat.zero_le _)
  obtain ⟨rfl, same⟩ := finds.eq_drop few
  exact ⟨b', finds, same⟩

theorem ahead_of_next {e : Event} (taken : b.next = (some e, b')) : b.ahead = e :: b'.ahead := by
  have first := next_fst b
  have rest := ahead_next b
  rw [taken] at first rest
  cases events : b.ahead with
  | nil => rw [events] at first; cases first
  | cons _ _ =>
    rw [events] at first rest
    cases first
    exact congrArg (e :: ·) rest.symm

theorem ahead_eq_nil_of_next (taken : b.next = (none, b')) : b.ahead = [] := by
  have first := next_fst b
  rw [taken] at first
  exact List.head?_eq_none_iff.mp first.symm

end Event.Buffer

open Event.Buffer

/-- Compilation of the events that a buffer gives, with looks ahead through the buffer. -/
inductive Compilation.Through (layout : Layout) : Session → Event.Buffer → Compilation → Prop
  | finished {s : Session} {b b' : Event.Buffer} (taken : b.next = (none, b')) :
    Through layout s b { steps := [], origins := s.naming.origins, violation := none }
  | violated {s s' : Session} {b b' b'' : Event.Buffer} {e : Event} {ahead : List Event} {v : Violation}
    (taken : b.next = (some e, b')) (looked : Finds b' 0 ahead b'')
    (failed : Compile.step layout ahead e { s with output := [] } = (.error v, s')) :
    Through layout s b { steps := [], origins := s'.naming.origins, violation := some v }
  | compiled {s s' : Session} {b b' b'' : Event.Buffer} {e : Event} {ahead : List Event} {later : Compilation}
    (taken : b.next = (some e, b')) (looked : Finds b' 0 ahead b'')
    (ran : Compile.step layout ahead e { s with output := [] } = (.ok (), s')) (rest : Through layout s' b'' later) :
    Through layout s b { later with steps := s'.output.map (·, s'.naming.origins.size) ++ later.steps }

namespace Compilation

variable {layout : Layout} {s : Session} {b : Event.Buffer} {c : Compilation}

theorem Through.eq_ofSession (through : Through layout s b c) (few : b.ahead.length + 1 < UInt64.size) :
    c = ofSession layout s b.ahead := by
  induction through with
  | finished taken => rw [ahead_eq_nil_of_next taken, ofSession]
  | violated taken looked failed =>
    rw [ahead_of_next taken] at few ⊢
    obtain ⟨rfl, -⟩ := looked.eq_drop (Nat.lt_of_succ_lt few)
    simp only [UInt64.toNat_zero, List.drop_zero] at failed
    rw [ofSession, failed]
  | compiled taken looked ran rest ih =>
    rw [ahead_of_next taken] at few ⊢
    obtain ⟨rfl, same⟩ := looked.eq_drop (Nat.lt_of_succ_lt few)
    simp only [UInt64.toNat_zero, List.drop_zero] at ran
    rw [same] at ih
    rw [ofSession, ran, ih (Nat.lt_of_succ_lt few)]

theorem exists_through (few : b.ahead.length + 1 < UInt64.size) : ∃ c, Through layout s b c := by
  induction events : b.ahead generalizing s b with
  | nil =>
    refine ⟨_, .finished (Prod.ext ?_ rfl)⟩
    rw [next_fst, events]
    rfl
  | cons e rest ih =>
    have taken : b.next = (some e, b.next.2) := by
      refine Prod.ext ?_ rfl
      rw [next_fst, events]
      rfl
    have left : b.next.2.ahead = rest := by rw [ahead_next, events, List.tail_cons]
    have fewer : b.next.2.ahead.length + 1 < UInt64.size := by
      rw [left]
      rw [events, List.length_cons] at few
      omega
    obtain ⟨b', looked, same⟩ := exists_finds_ahead fewer
    cases ran : Compile.step layout b.next.2.ahead e { s with output := [] } with
    | mk outcome s' =>
      cases outcome with
      | error v => exact ⟨_, .violated taken looked ran⟩
      | ok _ =>
        obtain ⟨later, through⟩ := @ih s' b' (same ▸ fewer) (same.trans left)
        exact ⟨_, .compiled taken looked ran through⟩

/-- Compilation with looks through a buffer is compilation of the list of the events to come. -/
theorem through_iff (few : b.ahead.length + 1 < UInt64.size) :
    Through layout s b c ↔ c = ofSession layout s b.ahead := by
  constructor
  · exact fun through => through.eq_ofSession few
  · rintro rfl
    obtain ⟨c, through⟩ := @exists_through layout s b few
    rwa [← through.eq_ofSession few]

theorem through_ofSource_iff {events : List Event} (few : events.length + 1 < UInt64.size) :
    Through layout {} (.ofSource events) c ↔ c = ofEvents layout events := through_iff few

end Compilation

end TemplateQuery
