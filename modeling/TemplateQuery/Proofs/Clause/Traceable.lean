import TemplateQuery.Proofs.Naming.Distinct
import TemplateQuery.Proofs.Origins.Notes

/-! Literals that are told by their origin. One that was brought forward is known again in its place by its origin, so
the table of captured variables has to hold that origin still, and must not have it from elsewhere. `Traceable` says
when a document ensures both; then every triple is written exactly once. -/

set_option autoImplicit false

namespace TemplateQuery

open Origins

/-! ## What a visit captures -/

def Place.node (place : Place) : Bool → Node
  | true => place.triple.object
  | false => place.triple.subject

def Pattern.node (p : Pattern) : Bool → Term
  | true => p.object
  | false => p.subject

/-- A variable and where it comes from, captured at one end of a triple. -/
structure Capture where
  place : Place
  isObject : Bool
  name : String
  origin : String

def Capture.entry (c : Capture) : String × String := (c.name, c.origin)

def Capture.node (c : Capture) : Node := c.place.node c.isObject

def Place.capture? (place : Place) (isObject : Bool) (t : Term) : Option Capture :=
  match (place.node isObject).term.role, (place.node isObject).origin, t with
  | .itself, _, _ => none
  | _, some origin, .var name => some { place, isObject, name, origin }
  | _, _, _ => none

def Visit.captures (v : Visit) : List Capture :=
  match v.resolves, v.outcome with
  | true, .ok p => (v.place.capture? false p.subject).toList ++ (v.place.capture? true p.object).toList
  | _, _ => []

theorem Place.of_capture? {place : Place} {isObject : Bool} {t : Term} {c : Capture}
    (captured : place.capture? isObject t = some c) :
    c.place = place ∧ c.isObject = isObject ∧ c.node.term.role ≠ .itself ∧ c.node.origin = some c.origin ∧
      t = .var c.name := by
  unfold Place.capture? at captured
  split at captured
  · cases captured
  · next role known noted => cases captured; exact ⟨rfl, rfl, noted, known, rfl⟩
  · cases captured

theorem Place.capture?_eq_some {place : Place} {isObject : Bool} {name origin : String}
    (noted : (place.node isObject).term.role ≠ .itself) (known : (place.node isObject).origin = some origin) :
    place.capture? isObject (.var name) = some ⟨place, isObject, name, origin⟩ := by
  unfold Place.capture?
  rw [known]
  cases role : (place.node isObject).term.role with
  | itself => exact absurd role noted
  | _ => rfl

def Role.name? : Role → Option String
  | .pinned name | .named name => some name
  | _ => none

namespace Naming

variable {n n' : Naming} {t : Term}

theorem resolve_of_name? {node : Node} {triple? : Option Triple} {record : Bool} {name : String}
    (given : name ∈ node.term.role.name?) (found : n.resolve node triple? record = (.ok t, n')) : t = .var name := by
  rcases resolve_ok found with ⟨role, -, -⟩ | ⟨asked, registry, wanted, asks, rfl, -, -⟩
  · simp [role, Role.name?] at given
  · unfold asked? at asks
    cases role : node.term.role with
    | pinned _ | named _ =>
      simp only [role, Role.name?, Option.mem_def, Option.some.injEq] at given
      simp only [role, Except.ok.injEq, Option.some.injEq, Prod.mk.injEq] at asks
      rw [← given, asks.1]
    | _ => simp [role, Role.name?] at given

theorem resolve_of_pattern {place : Place} {p : Pattern} (found : (n.pattern place.triple).1 = .ok p)
    (isObject : Bool) :
    ∃ m m' : Naming, m.resolve (place.node isObject) (some place.triple) true = (.ok (p.node isObject), m') := by
  obtain ⟨subject, mid, object, first, second, rfl⟩ := pattern_ok (Prod.ext found rfl)
  cases isObject with
  | false => exact ⟨n, mid, first⟩
  | true => exact ⟨mid, _, second⟩

theorem origins_resolve (place : Place) (isObject : Bool)
    (found : n.resolve (place.node isObject) (some place.triple) true = (.ok t, n')) :
    n'.origins = ((place.capture? isObject t).toList.map Capture.entry).foldl
      (fun o entry => o.insert entry.1 entry.2) n.origins := by
  unfold resolve at found
  split at found
  · cases found
  · next asked =>
    cases found
    simp [Place.capture?, asked?_eq_none_iff.mp asked]
  · next name registry asked =>
    obtain ⟨outcome, rfl⟩ := Prod.mk.inj found
    obtain ⟨rfl, -⟩ := Term.variable_eq_ok outcome
    cases known : (place.node isObject).origin with
    | some origin =>
      rw [Place.capture?_eq_some (role_ne_itself asked) known]
      simp [capture, known, Capture.entry]
    | none =>
      have free : place.capture? isObject (.var name) = none := by
        cases captured : place.capture? isObject (.var name) with
        | none => rfl
        | some c =>
          obtain ⟨rfl, rfl, -, origin, -⟩ := Place.of_capture? captured
          cases known.symm.trans origin
      simp [free, capture, known]

end Naming

namespace Visit

variable {v : Visit} {c : Capture}

theorem origins_next (clean : v.resolves = true → ∃ p, v.outcome = .ok p) :
    v.next.origins =
      (v.captures.map Capture.entry).foldl (fun o entry => o.insert entry.1 entry.2) v.known.origins := by
  unfold captures next
  cases resolves : v.resolves with
  | false => rfl
  | true =>
    obtain ⟨p, outcome⟩ := clean resolves
    obtain ⟨subject, mid, object, first, second, rfl⟩ := Naming.pattern_ok (Prod.ext outcome rfl)
    rw [outcome, if_pos rfl, List.map_append, List.foldl_append, ← Naming.origins_resolve v.place false first]
    exact Naming.origins_resolve v.place true second

theorem of_mem_captures (member : c ∈ v.captures) :
    v.resolves = true ∧ ∃ p, v.outcome = .ok p ∧ v.place.capture? c.isObject (p.node c.isObject) = some c := by
  unfold captures at member
  split at member
  · next p resolves outcome =>
    refine ⟨resolves, p, outcome, ?_⟩
    rcases List.mem_append.mp member with found | found
    · have captured := Option.mem_toList.mp found
      obtain ⟨-, side, -⟩ := Place.of_capture? captured
      rwa [side]
    · have captured := Option.mem_toList.mp found
      obtain ⟨-, side, -⟩ := Place.of_capture? captured
      rwa [side]
  · cases member

theorem place_of_captures (member : c ∈ v.captures) : c.place = v.place := by
  obtain ⟨-, p, -, captured⟩ := of_mem_captures member
  exact (Place.of_capture? captured).1

theorem name_of_captures (member : c ∈ v.captures) {name : String} (given : name ∈ c.node.term.role.name?) :
    c.name = name := by
  obtain ⟨-, p, outcome, captured⟩ := of_mem_captures member
  obtain ⟨place, -, -, -, var⟩ := Place.of_capture? captured
  obtain ⟨n, n', found⟩ := Naming.resolve_of_pattern outcome c.isObject
  rw [Capture.node, place] at given
  cases var.symm.trans (Naming.resolve_of_name? given found)
  rfl

theorem named_of_captures (member : c ∈ v.captures) {spot : Spot}
    (spotted : c.node.spot? (.hole c.place c.isObject) = some spot) : (spot, .var c.name) ∈ v.named := by
  obtain ⟨-, p, outcome, captured⟩ := of_mem_captures member
  obtain ⟨place, -, -, -, var⟩ := Place.of_capture? captured
  rw [Capture.node, place] at spotted
  rw [named, outcome, ← var]
  cases side : c.isObject with
  | false =>
    rw [side] at spotted
    exact List.mem_append_left _ (List.mem_map_of_mem (Option.mem_toList.mpr spotted))
  | true =>
    rw [side] at spotted
    exact List.mem_append_right _ (List.mem_map_of_mem (Option.mem_toList.mpr spotted))

end Visit

/-! ## What stays in the table -/

theorem Origins.get?_insert (o : Origins) (name origin x : String) :
    (o.insert name origin).get? x = if x = name then some origin else o.get? x := by
  unfold Origins.insert get?
  induction o.entries with
  | nil => by_cases same : x = name <;> simp [insertInto, List.lookup_cons, same, beq_false_of_ne]
  | cons entry rest ih =>
    obtain ⟨first, place⟩ := entry
    unfold insertInto
    by_cases asked : x = first
    · by_cases same : first = name <;> simp [asked, same]
    · by_cases same : first = name
      · subst same
        simp [List.lookup_cons, asked, beq_false_of_ne]
      · simpa [List.lookup_cons, asked, same, beq_false_of_ne] using ih

theorem Origins.hasOrigin_of_get? {o : Origins} {name origin : String} (known : o.get? name = some origin) :
    o.hasOrigin origin = true := by
  obtain ⟨front, back, split, -⟩ := List.lookup_eq_some_iff.mp known
  simp [hasOrigin, split]

/-- What is captured later under another name, or again from the same place, leaves an entry as it is. -/
theorem get?_insertEach {entries : List (String × String)} {o : Origins} {name origin : String}
    (known : o.get? name = some origin) (same : ∀ entry ∈ entries, entry.1 = name → entry.2 = origin) :
    (entries.foldl (fun o entry => o.insert entry.1 entry.2) o).get? name = some origin := by
  induction entries generalizing o with
  | nil => exact known
  | cons entry rest ih =>
    refine ih ?_ fun later member => same later (List.mem_cons_of_mem entry member)
    rw [Origins.get?_insert]
    split
    · next again => rw [same entry List.mem_cons_self again.symm]
    · exact known

/-- Visits from which the table is known: each goes on with what the one before knows, and none has a violation. -/
structure Followed (n : Naming) (seen : List Visit) : Prop where
  successive : Successive id n seen
  clean : ∀ v ∈ seen, v.resolves = true → ∃ p, v.outcome = .ok p

namespace Followed

variable {n : Naming} {v : Visit} {seen before later : List Visit}

theorem tail (followed : Followed n (v :: seen)) : Followed v.next seen :=
  ⟨followed.successive.2, fun u member => followed.clean u (List.mem_cons_of_mem v member)⟩

theorem origins_next (followed : Followed n (v :: seen)) :
    v.next.origins = (v.captures.map Capture.entry).foldl (fun o entry => o.insert entry.1 entry.2) n.origins := by
  rw [Visit.origins_next (followed.clean v List.mem_cons_self), show v.known = n from followed.successive.1]

theorem after (followed : Followed n (before ++ v :: later)) : Followed v.next later := by
  induction before generalizing n with
  | nil => exact followed.tail
  | cons u before ih => exact ih followed.tail

theorem get?_of_mem {name origin : String} (followed : Followed n seen) (known : n.origins.get? name = some origin)
    (one : ∀ w ∈ seen, ∀ c ∈ w.captures, c.name = name → c.origin = origin) (member : v ∈ seen) :
    v.known.origins.get? name = some origin := by
  induction seen generalizing n with
  | nil => cases member
  | cons w seen ih =>
    rcases List.mem_cons.mp member with rfl | member
    · rw [show v.known = n from followed.successive.1]
      exact known
    · refine ih followed.tail ?_ (fun u later => one u (List.mem_cons_of_mem w later)) member
      rw [followed.origins_next]
      refine get?_insertEach known fun entry captured same => ?_
      obtain ⟨c, among, rfl⟩ := List.mem_map.mp captured
      exact one w List.mem_cons_self c among same

theorem captured_before {entry : String × String} (followed : Followed n (before ++ v :: later))
    (known : entry ∈ v.known.origins.entries) :
    entry ∈ n.origins.entries ∨ ∃ u ∈ before, ∃ c ∈ u.captures, c.entry = entry := by
  induction before generalizing n with
  | nil =>
    rw [show v.known = n from followed.successive.1] at known
    exact .inl known
  | cons u before ih =>
    rcases ih followed.tail with early | ⟨w, member, c, captured, same⟩
    · rw [followed.origins_next] at early
      refine (mem_insertEach early).imp_right fun captured => ?_
      obtain ⟨c, among, same⟩ := List.mem_map.mp captured
      exact ⟨u, List.mem_cons_self, c, among, same⟩
    · exact .inr ⟨w, List.mem_cons_of_mem u member, c, captured, same⟩

end Followed

/-! ## Labels without a number -/

def endsInDigit (label : String) : Bool := label.toList.getLast?.any Char.isDigit

theorem endsInDigit_append {front back : String} (last : endsInDigit front = false) (plain : endsInDigit back = false) :
    endsInDigit (front ++ back) = false := by
  unfold endsInDigit at *
  rw [String.toList_append, List.getLast?_append]
  cases ends : back.toList.getLast? with
  | none => simpa using last
  | some c => rw [ends] at plain; exact plain

namespace Registry

theorem endsInDigit_nth (label : String) {n : Nat} (positive : 0 < n) : endsInDigit (nth label n) = true := by
  have digits : mark n = Number.natText n := if_neg (Nat.ne_of_gt positive)
  rw [endsInDigit, toList_nth, digits, List.getLast?_append_of_ne_nil _ (Number.natText_ne_nil n),
    List.getLast?_eq_some_getLast (Number.natText_ne_nil n)]
  exact Number.isDigit_of_mem_natText (List.getLast_mem _)

/-- No label was asked for that could be one with a number. -/
def Unnumbered (r : Registry) : Prop := ∀ label ∈ r.requests, endsInDigit label = false

theorem Unnumbered.apart {r : Registry} (unnumbered : r.Unnumbered) : Apart r.requests := by
  intro label asked other _ n _ positive same
  have ends := unnumbered label asked
  rw [same, endsInDigit_nth other positive] at ends
  cases ends

theorem Unnumbered.fresh {r r' : Registry} {label name : String} (unnumbered : r.Unnumbered)
    (plain : endsInDigit label = false) (made : r.fresh label = .ok (name, r')) : r'.Unnumbered := by
  obtain ⟨-, -, rfl⟩ := fresh_ok made
  intro other asked
  rcases List.mem_cons.mp asked with rfl | early
  · exact plain
  · exact unnumbered other early

end Registry

def Triple.stem (t : Triple) : String := Label.ofPredicate t.predicate.term t.inverse

namespace Naming

variable {n : Naming} {u : Triple}

theorem endsInDigit_label (n : Naming) (node : Node) (plain : endsInDigit u.stem = false) :
    endsInDigit (n.label node u) = false := by
  have behind : ∀ name : String, endsInDigit (name ++ "_" ++ u.stem) = false := by
    intro name
    refine endsInDigit_append ?_ plain
    simp [endsInDigit]
  unfold label
  dsimp only
  split
  · exact plain
  · exact plain
  · next relative _ _ =>
    cases referenceName? relative with
    | none => exact plain
    | some name => exact behind name
  · exact behind _

theorem unnumbered_resolve (plain : endsInDigit u.stem = false) (unnumbered : n.registry.Unnumbered) (node : Node)
    (record : Bool) : (n.resolve node (some u) record).2.registry.Unnumbered := by
  unfold resolve
  split
  · exact unnumbered
  · exact unnumbered
  · next name registry asked =>
    rw [capture_registry]
    have label := n.endsInDigit_label node plain
    rcases asked?_cases asked with rfl | ⟨_, given, ⟨⟩, made, -⟩ | ⟨key, name?, named, -⟩
    · exact unnumbered
    · exact unnumbered.fresh label made
    · rcases Registry.nameFor_ok named with ⟨rfl, -, -⟩ | ⟨_, given, s, ⟨⟩, -, made, -, rfl⟩
      · exact unnumbered
      · have asked : s.Unnumbered := unnumbered.fresh label made
        exact asked

theorem unnumbered_pattern (plain : endsInDigit u.stem = false) (unnumbered : n.registry.Unnumbered) :
    (n.pattern u).2.registry.Unnumbered := by
  unfold pattern
  have first := unnumbered_resolve plain unnumbered u.subject true
  split
  · next found => rw [found] at first; exact first
  · next found =>
    rw [found] at first
    have second := unnumbered_resolve plain first u.object true
    split
    · next found => rw [found] at second; exact second
    · next found => rw [found] at second; exact second

end Naming

theorem Visit.unnumbered_next {v : Visit} (plain : endsInDigit v.place.triple.stem = false)
    (unnumbered : v.known.registry.Unnumbered) : v.next.registry.Unnumbered := by
  unfold next
  split
  · exact Naming.unnumbered_pattern plain unnumbered
  · exact unnumbered

theorem unnumbered_visits {r : Registry} {seen : List Visit} (successive : Successive Naming.registry r seen)
    (plain : ∀ v ∈ seen, endsInDigit v.place.triple.stem = false) (unnumbered : r.Unnumbered) :
    (seen.foldl (fun _ v => v.next.registry) r).Unnumbered := by
  induction seen generalizing r with
  | nil => exact unnumbered
  | cons v later ih =>
    obtain ⟨rfl, successive⟩ := successive
    exact ih successive (fun u member => plain u (List.mem_cons_of_mem v member))
      (Visit.unnumbered_next (plain v List.mem_cons_self) unnumbered)

/-! ## Where visits stand -/

theorem mem_places_cons {place : Place} {rest : List Event} (member : place ∈ places rest) (e : Event) :
    place ∈ places (e :: rest) := by
  cases e with
  | triple t => exact List.mem_cons_of_mem _ member
  | _ => exact member

theorem Ahead.mem_places_of_own {depth : Nat} {events : List Event} {place : Place}
    (member : place ∈ ownPlaces depth events) : place ∈ places events := by
  fun_induction ownPlaces depth events with
  | case1 | case3 => cases member
  | case5 t rest ih =>
    rcases List.mem_cons.mp member with rfl | later
    · exact List.mem_cons_self
    · exact List.mem_cons_of_mem _ (ih later)
  | case2 | case4 | case6 => rename_i ih; exact mem_places_cons (ih member) _

def forwardPlaces : List Event → List Place
  | [] => []
  | .startSubject _ :: rest => Ahead.enclosingPlaces 0 none rest ++ forwardPlaces rest
  | _ :: rest => forwardPlaces rest

theorem place_of_visits {n : Naming} {events : List Event} {v : Visit} (member : v ∈ visits n events) :
    v.place ∈ places events ∧ (v.pass = .forward → v.place ∈ forwardPlaces events) := by
  fun_induction visits n events with
  | case1 => cases member
  | case2 n node rest opened own joined around ih =>
    rcases List.mem_append.mp member with first | later
    · rcases List.mem_append.mp first with required | brought
      · obtain ⟨place, pass⟩ := place_mem_of_visitAll required
        refine ⟨mem_places_cons (Ahead.mem_places_of_own place) _, fun forward => ?_⟩
        cases pass.symm.trans forward
      · obtain ⟨place, -⟩ := place_mem_of_visitAll brought
        have own := (Ahead.enclosingPlaces_sublist 0 none rest).subset place
        exact ⟨mem_places_cons (Ahead.mem_places_of_own own) _, fun _ => List.mem_append_left _ place⟩
    · obtain ⟨place, forward⟩ := ih later
      exact ⟨mem_places_cons place _, fun pass => List.mem_append_right _ (forward pass)⟩
  | case3 n t rest ih =>
    rcases List.mem_cons.mp member with rfl | later
    · exact ⟨List.mem_cons_self, fun forward => by cases forward⟩
    · obtain ⟨place, forward⟩ := ih later
      exact ⟨List.mem_cons_of_mem _ place, forward⟩
  | case4 n e rest noSubject noTriple ih =>
    obtain ⟨place, forward⟩ := ih member
    refine ⟨mem_places_cons place e, ?_⟩
    rw [forwardPlaces]
    · exact forward
    · exact noSubject

/-- Nothing is visited any more once it was met in its place. -/
theorem pairwise_visits (n : Naming) (events : List Event) :
    (visits n events).Pairwise fun u v => u.pass = .inLine → u.place ≠ v.place := by
  fun_induction visits n events with
  | case1 => exact .nil
  | case2 n node rest opened own joined around ih =>
    have early : ∀ u ∈ visitAll .required opened own ++ visitAll .forward joined around, u.pass ≠ .inLine := by
      intro u member inLine
      rcases List.mem_append.mp member with required | brought
      · cases (place_mem_of_visitAll required).2.symm.trans inLine
      · cases (place_mem_of_visitAll brought).2.symm.trans inLine
    refine List.pairwise_append.mpr ⟨List.pairwise_of_forall_mem_list fun u member _ _ inLine => ?_, ih,
      fun u member _ _ inLine => ?_⟩
    · exact absurd inLine (early u member)
    · exact absurd inLine (early u member)
  | case3 n t rest ih =>
    refine List.pairwise_cons.mpr ⟨fun v member _ same => ?_, ih⟩
    have less := after_lt_of_mem_places (place_of_visits member).1
    rw [← same] at less
    exact Nat.lt_irrefl _ less
  | case4 n e rest _ _ ih => exact ih

theorem pass_of_earlier {n : Naming} {events : List Event} {before later : List Visit} {u v : Visit}
    (split : visits n events = before ++ v :: later) (early : u ∈ before) (same : u.place = v.place) :
    u.pass ≠ .inLine := by
  intro inLine
  have apart := pairwise_visits n events
  rw [split] at apart
  exact (List.pairwise_append.mp apart).2.2 u early v List.mem_cons_self inLine same

theorem literal_of_forwardPlaces {events : List Event} {place : Place} (member : place ∈ forwardPlaces events) :
    place.triple.object.term.isLiteral = true ∧ ∃ origin, place.triple.object.origin = some origin := by
  fun_induction forwardPlaces events with
  | case1 => cases member
  | case2 node rest ih => exact (List.mem_append.mp member).elim Ahead.literal_of_enclosing ih
  | case3 e rest _ ih => exact ih member

/-! ## Documents whose literals can be told -/

def looksMade (name : String) : Bool := name.toList.head? == some '_'

def Event.opensPinned : Event → Bool
  | .startSubject node => node.term.role.isPinned
  | _ => false

/-- Whether a triple is optional and has a literal, so that it is told by the origin of that. -/
def Triple.isTold (t : Triple) : Bool := t.isOpen && t.object.term.isLiteral

def Place.noted? (place : Place) (isObject : Bool) : Option String :=
  if (place.node isObject).term.role = .itself then none else (place.node isObject).origin

/-- A literal whose variable, once captured, stays with its origin. -/
@[mk_iff]
structure Kept (document : List Event) (literal : Node) : Prop where
  varies : literal.term.role ≠ .itself
  /-- A variable that the template names has this origin only, and no variable is made of that name. -/
  single : ∀ name ∈ literal.term.role.name?, looksMade name = false ∧
    ∀ other ∈ places document, ∀ isObject, name ∈ (other.node isObject).term.role.name? →
      ∀ origin ∈ (other.node isObject).origin, origin ∈ literal.origin
  /-- A variable made for a hole is neither made again nor named in the template. -/
  made : literal.term.role = .hole → ∀ other ∈ places document, endsInDigit other.triple.stem = false ∧
    ∀ isObject, ∀ name ∈ (other.node isObject).term.role.name?, looksMade name = false

instance (document : List Event) (literal : Node) : Decidable (Kept document literal) :=
  decidable_of_iff _ (kept_iff document literal).symm

/-- Documents in which a literal is told by its origin. -/
@[mk_iff]
structure Traceable (document : List Event) : Prop where
  subjects : ∀ e ∈ document, e.opensPinned = false
  /-- Nothing else that becomes a variable has the origin of an optional triple's literal. -/
  own : ∀ place ∈ places document, place.triple.isTold = true → ∀ other ∈ places document, ∀ isObject,
    ∀ origin ∈ other.noted? isObject, origin ∈ place.triple.object.origin → (other, isObject) = (place, true)
  /-- The origin of one that is brought forward is still known in its place. -/
  kept : ∀ place ∈ forwardPlaces document, place.triple.isOpen = true → Kept document place.triple.object

instance (document : List Event) : Decidable (Traceable document) :=
  decidable_of_iff _ (traceable_iff document).symm

theorem looksMade_of_entered {given : List (Spot × String)} {spot : Spot} {name : String}
    (entered : Ledger.Entered given spot (.var name)) : looksMade name = true := by
  obtain ⟨made, -, same⟩ := entered
  cases same
  simp [looksMade]

theorem Term.role_of_isLiteral {t : Term} (literal : t.isLiteral = true) :
    t.role = .itself ∨ t.role = .hole ∨ ∃ name, t.role = .pinned name := by
  cases t with
  | literal lexical tag =>
    unfold role
    dsimp only
    split
    · exact .inr (.inl rfl)
    · cases markedName? lexical with
      | none => exact .inl rfl
      | some name => exact .inr (.inr ⟨name, rfl⟩)
  | _ => cases literal

theorem Visit.named_or_entered {v : Visit} {c : Capture} {given : List (Spot × String)} (member : c ∈ v.captures)
    (entered : ∀ entry ∈ v.named, Ledger.Entered given entry.1 entry.2) :
    c.name ∈ c.node.term.role.name? ∨
      ∃ spot, c.node.spot? (.hole c.place c.isObject) = some spot ∧ Ledger.Entered given spot (.var c.name) := by
  obtain ⟨-, p, -, captured⟩ := of_mem_captures member
  obtain ⟨-, -, noted, -, -⟩ := Place.of_capture? captured
  cases role : c.node.term.role with
  | itself => exact absurd role noted
  | pinned name | named name =>
    have given : name ∈ c.node.term.role.name? := by simp [role, Role.name?]
    exact .inl (by rw [name_of_captures member given]; rfl)
  | hole | resource key =>
    refine .inr ⟨_, by rw [Node.spot?, role], entered _ (named_of_captures member ?_)⟩
    rw [Node.spot?, role]

namespace Visit

variable {v : Visit} {c : Capture}

theorem origin_of_captures (member : c ∈ v.captures) : c.node.origin = some c.origin := by
  obtain ⟨-, p, -, captured⟩ := of_mem_captures member
  exact (Place.of_capture? captured).2.2.2.1

theorem role_of_captures (member : c ∈ v.captures) : c.node.term.role ≠ .itself := by
  obtain ⟨-, p, -, captured⟩ := of_mem_captures member
  exact (Place.of_capture? captured).2.2.1

end Visit

theorem Node.of_spot?_eq_hole {node : Node} {place place' : Place} {isObject isObject' : Bool}
    (spotted : node.spot? (.hole place isObject) = some (.hole place' isObject')) :
    place = place' ∧ isObject = isObject' := by
  unfold Node.spot? at spotted
  split at spotted <;> cases spotted
  exact ⟨rfl, rfl⟩

theorem Naming.resolve_unpinned (n : Naming) {node : Node} (unpinned : node.term.role.isPinned = false) :
    (n.resolve node none true).2 = n := by
  unfold resolve
  split
  · rfl
  · rfl
  · next asked => simp [unpinned, asked?_alone asked]

namespace Traceable

variable {document : List Event}

theorem followed (traceable : Traceable document)
    (clean : ∀ v ∈ visits {} document, v.resolves = true → ∃ p, v.outcome = .ok p) :
    Followed {} (visits {} document) := by
  have successive : Successive id (id {}) (visits {} document) :=
    successive_visits fun n node member => n.resolve_unpinned (traceable.subjects _ member)
  exact ⟨successive, clean⟩

/-- The variable of a literal brought forward is captured from the origin of that literal only. -/
theorem one_origin (traceable : Traceable document) {u w : Visit} {c d : Capture}
    (visited : u ∈ visits {} document) (forward : u.pass = .forward) (isOpen : u.place.triple.isOpen = true)
    (captured : c ∈ u.captures) (isObject : c.isObject = true) (other : w ∈ visits {} document)
    (captured' : d ∈ w.captures) (same : d.name = c.name) : d.origin = c.origin := by
  obtain ⟨given, ledger, entered⟩ := exists_ledger document
  have ahead := (place_of_visits visited).2 forward
  have inside := (place_of_visits other).1
  have node : c.node = u.place.triple.object := by
    rw [Capture.node, Visit.place_of_captures captured, isObject]
    rfl
  have place' : d.place = w.place := Visit.place_of_captures captured'
  have known : u.place.triple.object.origin = some c.origin := node ▸ Visit.origin_of_captures captured
  have known' : (w.place.node d.isObject).origin = some d.origin := place' ▸ Visit.origin_of_captures captured'
  have first := Visit.named_or_entered captured (entered u visited (Visit.of_mem_captures captured).1)
  have second := Visit.named_or_entered captured' (entered w other (Visit.of_mem_captures captured').1)
  rw [show d.node = w.place.node d.isObject by rw [Capture.node, place']] at second
  rw [node] at first
  rcases first with named | ⟨spot, spotted, made⟩
  · obtain ⟨plain, elsewhere⟩ := (traceable.kept _ ahead isOpen).single c.name named
    rcases second with again | ⟨spot', -, made⟩
    · have found := elsewhere _ inside d.isObject (same ▸ again) d.origin known'
      exact (Option.some.inj (known.symm.trans found)).symm
    · rw [same] at made
      cases plain.symm.trans (looksMade_of_entered made)
  · -- A name made for a hole is found again only there, as the labels asked for tell the requests apart.
    have hole : u.place.triple.object.term.role = .hole := by
      rcases Term.role_of_isLiteral (literal_of_forwardPlaces ahead).1 with itself | hole | ⟨name, pinned⟩
      · exact absurd itself (traceable.kept _ ahead isOpen).varies
      · exact hole
      · simp [Node.spot?, pinned] at spotted
    have plain := (traceable.kept _ ahead isOpen).made hole
    rcases second with named | ⟨spot', spotted', made'⟩
    · have unmade := (plain _ inside).2 d.isObject d.name named
      rw [same, looksMade_of_entered made] at unmade
      cases unmade
    · have unnumbered := unnumbered_visits (successive_registry document)
        (fun v member => (plain _ (place_of_visits member).1).1) (by simp [Registry.Unnumbered])
      obtain rfl := ledger.spot_inj unnumbered.apart (same ▸ made') made
      have spotHole : spot' = .hole c.place true := by
        simpa [Node.spot?, hole, isObject] using spotted.symm
      rw [spotHole] at spotted'
      obtain ⟨samePlace, sameSide⟩ := Node.of_spot?_eq_hole spotted'
      rw [← place', samePlace, sameSide, Visit.place_of_captures captured] at known'
      exact Option.some.inj (known'.symm.trans known)

theorem brought_of_promoted (traceable : Traceable document)
    (clean : ∀ v ∈ visits {} document, v.resolves = true → ∃ p, v.outcome = .ok p) {v : Visit}
    (visited : v ∈ visits {} document) (isOpen : v.place.triple.isOpen = true)
    (promoted : v.known.isPromoted v.place.triple = true) :
    ∃ u ∈ visits {} document, u.pass = .forward ∧ u.place = v.place ∧ u.writes = true := by
  obtain ⟨literal, found⟩ := Bool.and_eq_true_iff.mp promoted
  cases known : v.place.triple.object.origin with
  | none => rw [known] at found; cases found
  | some origin =>
    rw [known] at found
    obtain ⟨entry, member, here⟩ := List.any_eq_true.mp found
    obtain ⟨before, later, split⟩ := List.append_of_mem visited
    have followed := traceable.followed clean
    rw [split] at followed
    obtain ⟨u, early, c, captured, rfl⟩ := (followed.captured_before member).resolve_left (by simp)
    have early' : u ∈ visits {} document := split ▸ List.mem_append_left _ early
    have noted := Visit.role_of_captures captured
    have from_ := Visit.origin_of_captures captured
    have place := Visit.place_of_captures captured
    rw [Capture.node, place] at noted from_
    -- No other end has this origin, so the capture was that of this literal.
    have same := traceable.own _ (place_of_visits visited).1 (by simp [Triple.isTold, isOpen, literal]) _
      (place_of_visits early').1 c.isObject c.origin (by simp [Place.noted?, noted, from_])
      (by rw [known, ← beq_iff_eq.mp here]; rfl)
    obtain ⟨same, -⟩ := Prod.mk.inj same
    have resolves := (Visit.of_mem_captures captured).1
    have forward : u.pass = .forward := by
      cases pass : u.pass with
      | forward => rfl
      | required => simp [Visit.resolves, pass, same, isOpen] at resolves
      | inLine => exact absurd pass (pass_of_earlier split early same)
    refine ⟨u, early', forward, same, ?_⟩
    have late : u.pass ≠ .required := by simp [forward]
    rw [Visit.resolves_of_late late] at resolves
    rw [Visit.writes_of_late late, resolves, same, isOpen]
    rfl

theorem promoted_of_brought (traceable : Traceable document)
    (clean : ∀ v ∈ visits {} document, v.resolves = true → ∃ p, v.outcome = .ok p) {u v : Visit}
    (visited : v ∈ visits {} document) (inLine : v.pass = .inLine) (early : u ∈ visits {} document)
    (forward : u.pass = .forward) (same : u.place = v.place) (writes : u.writes = true) :
    v.known.isPromoted v.place.triple = true := by
  have resolves := Visit.resolves_of_writes writes
  obtain ⟨p, outcome⟩ := clean u early resolves
  have ahead := (place_of_visits early).2 forward
  obtain ⟨literal, origin, known⟩ := literal_of_forwardPlaces ahead
  have isOpen : u.place.triple.isOpen = true := by
    rw [Visit.writes_of_late (by simp [forward])] at writes
    exact (Bool.and_eq_true_iff.mp writes).1
  have noted := (traceable.kept _ ahead isOpen).varies
  obtain ⟨name, named⟩ : ∃ name, p.object = .var name := by
    obtain ⟨n, n', found⟩ := Naming.resolve_of_pattern outcome true
    rcases Naming.resolve_ok found with ⟨itself, -, -⟩ | ⟨name, -, -, -, var, -, -⟩
    · exact absurd itself noted
    · exact ⟨name, var⟩
  have captures : u.captures = (u.place.capture? false p.subject).toList ++ [⟨u.place, true, name, origin⟩] := by
    have object : u.place.capture? true (.var name) = some ⟨u.place, true, name, origin⟩ :=
      Place.capture?_eq_some noted known
    simp only [Visit.captures, resolves, outcome, named, object, Option.toList_some]
  have entered : u.next.origins.get? name = some origin := by
    rw [Visit.origins_next fun _ => ⟨p, outcome⟩, captures]
    simp [Capture.entry, Origins.get?_insert]
  obtain ⟨before, later, split⟩ := List.append_of_mem early
  have after : v ∈ later := by
    rw [split] at visited
    rcases List.mem_append.mp visited with first | rest
    · exact absurd inLine (pass_of_earlier split first same.symm)
    · rcases List.mem_cons.mp rest with rfl | after
      · cases forward.symm.trans inLine
      · exact after
  have followed := traceable.followed clean
  rw [split] at followed
  have still := followed.after.get?_of_mem entered (fun w member d captured' sameName =>
    traceable.one_origin early forward isOpen (captures ▸ List.mem_append_right _ List.mem_cons_self) rfl
      (split ▸ List.mem_append_right _ (List.mem_cons_of_mem u member)) captured' sameName) after
  rw [← same, Naming.isPromoted, literal, known]
  exact Origins.hasOrigin_of_get? still

theorem settled (traceable : Traceable document)
    (clean : ∀ v ∈ visits {} document, v.resolves = true → ∃ p, v.outcome = .ok p) :
    Settled (visits {} document) := by
  intro v visited inLine isOpen
  constructor
  · exact traceable.brought_of_promoted clean visited isOpen
  · rintro ⟨u, early, forward, same, writes⟩
    exact traceable.promoted_of_brought clean visited inLine early forward same writes

end Traceable

/-- The patterns of a query are those of the visits that write, each under the names known then. Every required triple
is written exactly once; all triples are, just when those captured in their place are those brought forward. Documents
whose literals can be told by their origins have it so. -/
theorem compile_writes_each_once_iff {layout : Layout} {body out : List Event} (nested : nestedFrom 0 body = true)
    (compiled : compile layout ([.startDocument] ++ body ++ [.endDocument]) = .ok out) :
    let document := [.startDocument] ++ body ++ [.endDocument]
    let seen := visits {} document
    (patterns out).map Except.ok = (written seen).map Visit.outcome ∧
    ((writtenPlaces seen).filter Place.isRequired).Perm ((places document).filter Place.isRequired) ∧
    ((writtenPlaces seen).Perm (places document) ↔ Settled seen) ∧
    (Settled seen → (patterns out).length = (places document).length) ∧
    (Traceable document → Settled seen) := by
  intro document seen
  have whole : nestedFrom 0 document = true := by
    rw [← nested]
    exact nestedFrom_endDocument 0 body
  obtain ⟨clean, same⟩ := compile_eq_ok compiled
  have wrote : (patterns out).map Except.ok = (written seen).map Visit.outcome := by
    rw [← same]
    exact patterns_of_ofSession clean
  have balance := perm_places_iff_settled (n := {}) whole
  refine ⟨wrote, required_written_once whole, balance, fun settled => ?_, fun traceable => ?_⟩
  · have count := (balance.mpr settled).length_eq
    rw [writtenPlaces, List.length_map] at count
    rw [← count, ← List.length_map (f := Visit.outcome), ← wrote, List.length_map]
  · exact traceable.settled (outcome_of_ofSession clean)

/-- Under a name of its own the nested subject leaves the title captured, be that named or to be filled in, and it is
skipped in its place. Under the name of the title it captures that variable anew, so that the title is written twice. -/
theorem compile_writes_titledPage :
    let document (name title : String) := [.startDocument] ++ titledPage name title ++ [.endDocument]
    let predicates (name title : String) :=
      (compile {} (document name title)).map fun out => (patterns out).map Pattern.predicate
    (∀ title ∈ ["?t", ""], predicates "?n" title = .ok [.iri "p:title", .iri "p:knows", .iri "p:name"] ∧
      Traceable (document "?n" title) ∧ Settled (visits {} (document "?n" title))) ∧
    (predicates "?t" "?t" = .ok [.iri "p:title", .iri "p:knows", .iri "p:name", .iri "p:title"] ∧
      ¬ Traceable (document "?t" "?t") ∧ ¬ Settled (visits {} (document "?t" "?t"))) := by
  intro document predicates
  have compiled : ∀ {name title : String} {found : List Term}, predicates name title = .ok found →
      ∃ out, compile {} (document name title) = .ok out := by
    intro name title found ran
    cases run : compile {} (document name title) with
    | error v => simp only [predicates, run] at ran; cases ran
    | ok out => exact ⟨out, rfl⟩
  refine ⟨fun title among => ?_, ?_⟩
  · have apart : ∀ title ∈ ["?t", ""],
        predicates "?n" title = .ok [.iri "p:title", .iri "p:knows", .iri "p:name"] := by decide +kernel
    have traceable : ∀ title ∈ ["?t", ""], Traceable (document "?n" title) := by decide +kernel
    have nested : ∀ title ∈ ["?t", ""], nestedFrom 0 (titledPage "?n" title) = true := by decide
    obtain ⟨out, ran⟩ := compiled (apart title among)
    obtain ⟨-, -, -, -, settled⟩ := compile_writes_each_once_iff (nested title among) ran
    exact ⟨apart title among, traceable title among, settled (traceable title among)⟩
  · have shared : predicates "?t" "?t" = .ok [.iri "p:title", .iri "p:knows", .iri "p:name", .iri "p:title"] := by
      decide +kernel
    obtain ⟨out, ran⟩ := compiled shared
    obtain ⟨-, -, once, -, settled⟩ := compile_writes_each_once_iff (by decide) ran
    have twice : ¬ Settled (visits {} (document "?t" "?t")) := fun settled =>
      absurd (once.mpr settled) (by decide +kernel)
    exact ⟨shared, fun traceable => twice (settled traceable), twice⟩

end TemplateQuery
