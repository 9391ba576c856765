import TemplateQuery.Proofs.Clause.Accounting
import TemplateQuery.Proofs.Clause.Course

/-! Which triples stand in a subject, and when a compilation looks at them: between the start of the subject and its
end, and at no other time. -/

set_option autoImplicit false

namespace TemplateQuery

namespace Ahead

def innerPlaces : Nat → List Event → List Place
  | _, [] => []
  | depth, .startSubject _ :: rest => innerPlaces (depth + 1) rest
  | 0, .endSubject _ :: _ => []
  | depth + 1, .endSubject _ :: rest => innerPlaces depth rest
  | depth, .triple t :: rest => ⟨rest.length, t⟩ :: innerPlaces depth rest
  | depth, _ :: rest => innerPlaces depth rest

/-- How many subjects are open after some events, `depth` being open before; none if one of the outer ones ends. -/
def level : Nat → List Event → Option Nat
  | depth, [] => some depth
  | depth, .startSubject _ :: rest => level (depth + 1) rest
  | 0, .endSubject _ :: _ => none
  | depth + 1, .endSubject _ :: rest => level depth rest
  | depth, _ :: rest => level depth rest

variable {depth : Nat} {events : List Event} {place : Place}

section Other

variable {e : Event} (noStart : ∀ node, e ≠ .startSubject node) (noEnd : ∀ node, e ≠ .endSubject node)
include noStart noEnd

theorem level_other (depth : Nat) (rest : List Event) : level depth (e :: rest) = level depth rest := by
  cases e with
  | startSubject node => exact absurd rfl (noStart node)
  | endSubject node => exact absurd rfl (noEnd node)
  | _ => simp [level]

theorem ownPlaces_other (noTriple : ∀ u, e ≠ .triple u) (depth : Nat) (rest : List Event) :
    ownPlaces depth (e :: rest) = ownPlaces depth rest := by
  cases e with
  | startSubject node => exact absurd rfl (noStart node)
  | endSubject node => exact absurd rfl (noEnd node)
  | triple u => exact absurd rfl (noTriple u)
  | _ => simp [ownPlaces]

end Other

theorem innerPlaces_sublist (depth : Nat) (events : List Event) :
    (innerPlaces depth events).Sublist (places events) := by
  fun_induction innerPlaces depth events <;> simp_all [places]

theorem ownPlaces_sublist (depth : Nat) (events : List Event) :
    (ownPlaces depth events).Sublist (innerPlaces depth events) := by
  induction events generalizing depth with
  | nil => exact .slnil
  | cons e rest ih =>
    cases e with
    | startSubject node => exact ih (depth + 1)
    | endSubject node =>
      cases depth with
      | zero => exact .slnil
      | succ depth => exact ih depth
    | triple u =>
      cases depth with
      | zero => exact (ih 0).cons_cons _
      | succ depth => simpa [ownPlaces, innerPlaces] using (ih (depth + 1)).cons _
    | _ => simpa [ownPlaces, innerPlaces] using ih depth

theorem after_lt_of_mem_ownPlaces (member : place ∈ ownPlaces depth events) : place.after < events.length :=
  after_lt_of_mem_places ((innerPlaces_sublist _ _).subset ((ownPlaces_sublist _ _).subset member))

theorem after_lt_of_mem_innerPlaces (member : place ∈ innerPlaces depth events) : place.after < events.length :=
  after_lt_of_mem_places ((innerPlaces_sublist _ _).subset member)

theorem innerPlaces_disjoint {outer : Nat} (further : depth < outer) (inside : place ∈ innerPlaces depth events) :
    place ∉ ownPlaces outer events := by
  induction events generalizing depth outer with
  | nil => cases inside
  | cons e rest ih =>
    cases e with
    | startSubject node => exact ih (Nat.succ_lt_succ further) inside
    | endSubject node =>
      cases depth with
      | zero => cases inside
      | succ depth =>
        cases outer with
        | zero => exact absurd further (Nat.not_lt_zero _)
        | succ outer => exact ih (Nat.lt_of_succ_lt_succ further) inside
    | triple u =>
      cases outer with
      | zero => exact absurd further (Nat.not_lt_zero _)
      | succ outer =>
        -- The triple here belongs to the inner subject, and one of the outer subject has fewer events after it.
        intro own
        have own : place ∈ ownPlaces (outer + 1) rest := by simpa [ownPlaces] using own
        have inside : place = ⟨rest.length, u⟩ ∨ place ∈ innerPlaces depth rest := by simpa [innerPlaces] using inside
        rcases inside with rfl | later
        · exact Nat.lt_irrefl _ (after_lt_of_mem_ownPlaces own)
        · exact ih further later own
    | _ =>
      intro own
      exact ih further (by simpa [innerPlaces] using inside) (by simpa [ownPlaces] using own)

theorem mem_ownPlaces_triple {u : Triple} {rest : List Event} :
    place ∈ ownPlaces depth (.triple u :: rest) ↔
      depth = 0 ∧ place = ⟨rest.length, u⟩ ∨ place ∈ ownPlaces depth rest := by
  cases depth <;> simp [ownPlaces]

theorem mem_ownPlaces_of_triple {u : Triple} {rest : List Event} (own : place ∈ ownPlaces depth (.triple u :: rest))
    (before : place.after < rest.length) : place ∈ ownPlaces depth rest := by
  rcases mem_ownPlaces_triple.mp own with ⟨-, rfl⟩ | later
  · exact absurd before (Nat.lt_irrefl _)
  · exact later

theorem eq_zero_of_mem_ownPlaces {u : Triple} {rest : List Event}
    (own : ⟨rest.length, u⟩ ∈ ownPlaces depth (.triple u :: rest)) : depth = 0 := by
  rcases mem_ownPlaces_triple.mp own with ⟨zero, -⟩ | later
  · exact zero
  · exact absurd (after_lt_of_mem_ownPlaces later) (Nat.lt_irrefl _)

theorem mem_ownPlaces_append {front back : List Event} (member : place ∈ ownPlaces depth (front ++ back)) :
    back.length ≤ place.after ∨ ∃ outer, place ∈ ownPlaces outer back := by
  induction front generalizing depth with
  | nil => exact .inr ⟨depth, member⟩
  | cons e front ih =>
    cases e with
    | startSubject node => exact ih member
    | endSubject node =>
      cases depth with
      | zero => cases member
      | succ depth => exact ih member
    | triple u =>
      rcases mem_ownPlaces_triple.mp member with ⟨-, rfl⟩ | later
      · exact .inl (by simp)
      · exact ih later
    | _ => exact ih (show place ∈ ownPlaces depth (front ++ back) by simpa [ownPlaces] using member)

theorem le_after_of_mem_innerPlaces {front back : List Event} {deeper : Nat} (levels : level depth front = some deeper)
    (ended : innerPlaces deeper back = []) (member : place ∈ innerPlaces depth (front ++ back)) :
    back.length ≤ place.after := by
  induction front generalizing depth with
  | nil =>
    cases levels
    rw [List.nil_append, ended] at member
    cases member
  | cons e front ih =>
    cases e with
    | startSubject node => exact ih levels member
    | endSubject node =>
      cases depth with
      | zero => cases levels
      | succ depth => exact ih levels member
    | triple u =>
      have member : place = ⟨(front ++ back).length, u⟩ ∨ place ∈ innerPlaces depth (front ++ back) := by
        simpa [innerPlaces] using member
      rcases member with rfl | later
      · simp
      · exact ih (by simpa [level] using levels) later
    | _ => exact ih (by simpa [level] using levels) (by simpa [innerPlaces] using member)

theorem exists_span (depth : Nat) (events : List Event) :
    ∃ inside tail deeper, events = inside ++ tail ∧ level depth inside = some deeper ∧
      (tail = [] ∨ deeper = 0 ∧ ∃ node rest, tail = .endSubject node :: rest) := by
  induction events generalizing depth with
  | nil => exact ⟨[], [], depth, rfl, rfl, .inl rfl⟩
  | cons e rest ih =>
    cases e with
    | startSubject node =>
      obtain ⟨inside, tail, deeper, rfl, levels, ends⟩ := ih (depth + 1)
      exact ⟨.startSubject node :: inside, tail, deeper, rfl, levels, ends⟩
    | endSubject node =>
      cases depth with
      | zero => exact ⟨[], .endSubject node :: rest, 0, rfl, rfl, .inr ⟨rfl, node, rest, rfl⟩⟩
      | succ depth =>
        obtain ⟨inside, tail, deeper, rfl, levels, ends⟩ := ih depth
        exact ⟨.endSubject node :: inside, tail, deeper, rfl, levels, ends⟩
    | startDocument | endDocument | base _ | declare _ _ | startGraph _ | endGraph _ | triple _ | pattern _ | comment _
    | select | ask | whereBlock _ | optional _ | group _ | union | orderBy _ =>
      obtain ⟨inside, tail, deeper, rfl, levels, ends⟩ := ih depth
      exact ⟨_ :: inside, tail, deeper, rfl, by simpa [level] using levels, ends⟩

end Ahead

/-! ## When a triple is looked at -/

variable {layout : Layout} {t t' : Trace} {s s' : Session} {sites : List Site} {ahead rest : List Event}

theorem visited_of_mem {seen : List Visit} (visits : sites.map Prod.snd = written seen) {site : Site}
    (member : site ∈ sites) : site.2 ∈ seen ∧ site.2.writes = true := by
  have listed : site.2 ∈ sites.map Prod.snd := List.mem_map_of_mem member
  rw [visits] at listed
  exact List.mem_filter.mp listed

theorem visit_of_met {v : Visit} (visit : sites.map Prod.snd = written [v]) {site : Site} (member : site ∈ sites) :
    site.2 = v :=
  List.mem_singleton.mp (visited_of_mem visit member).1

namespace Compile.Opens

variable {node : Node}

theorem place_mem (opens : Compile.Opens layout t node ahead s sites s') {site : Site} (member : site ∈ sites) :
    site.2.place ∈ Ahead.ownPlaces 0 ahead := by
  rcases List.mem_append.mp (visited_of_mem opens.visits member).1 with required | forward
  · exact (place_mem_of_visitAll required).1
  · exact (Ahead.enclosingPlaces_sublist _ _ _).subset (place_mem_of_visitAll forward).1

end Compile.Opens

namespace Course

variable {events : List Event}

/-- What is written in the course of some events stands among them, or right in a subject that is open after them. -/
theorem place_of_mem (course : Course layout rest t s events sites t' s') {site : Site} (member : site ∈ sites) :
    site.2.place.after < (events ++ rest).length ∧
      (rest.length ≤ site.2.place.after ∨ ∃ outer, site.2.place ∈ Ahead.ownPlaces outer rest) := by
  induction course with
  | nil => cases member
  | cons turn later ih =>
    rcases List.mem_append.mp member with here | there
    · cases turn with
      | opens opens =>
        have own := opens.place_mem here
        exact ⟨Nat.lt_succ_of_lt (Ahead.after_lt_of_mem_ownPlaces own), Ahead.mem_ownPlaces_append own⟩
      | meets acts visit =>
        rw [visit_of_met visit here]
        exact ⟨by simp, .inl (by simp)⟩
      | closes => cases here
      | passes => cases here
    · obtain ⟨before, place⟩ := ih there
      exact ⟨Nat.lt_succ_of_lt before, place⟩

theorem writes_of_mem (course : Course layout rest t s events sites t' s') {site : Site} (member : site ∈ sites) :
    site.2.writes = true := by
  induction course with
  | nil => cases member
  | cons turn later ih =>
    rcases List.mem_append.mp member with here | there
    · cases turn with
      | opens opens => exact (visited_of_mem opens.visits here).2
      | meets acts visit => exact (visited_of_mem visit here).2
      | closes => cases here
      | passes => cases here
    · exact ih there

theorem pass_of_own {depth deeper : Nat} (course : Course layout rest t s events sites t' s')
    (levels : Ahead.level depth events = some deeper) {site : Site} (member : site ∈ sites)
    (own : site.2.place ∈ Ahead.ownPlaces depth (events ++ rest)) : site.2.pass = .inLine := by
  induction course generalizing depth with
  | nil => cases member
  | cons turn later ih =>
    rcases List.mem_append.mp member with here | there
    · cases turn with
      | opens opens =>
        -- A subject that opens writes only its own triples, and those are not of the one around it.
        have nested := (Ahead.ownPlaces_sublist _ _).subset (opens.place_mem here)
        have outside := Ahead.innerPlaces_disjoint (Nat.succ_pos depth) nested
        exact absurd own outside
      | meets acts visit =>
        rw [visit_of_met visit here]
      | closes => cases here
      | passes => cases here
    · have beyond := (later.place_of_mem there).1
      cases turn with
      | opens opens => exact ih levels there own
      | meets acts visit =>
        exact ih (by simpa [Ahead.level] using levels) there (Ahead.mem_ownPlaces_of_triple own beyond)
      | closes =>
        cases depth with
        | zero => cases levels
        | succ depth => exact ih levels there own
      | passes noStart noEnd noTriple =>
        rw [Ahead.level_other noStart noEnd] at levels
        rw [List.cons_append, Ahead.ownPlaces_other noStart noEnd noTriple] at own
        exact ih levels there own

end Course

end TemplateQuery
