import Mathlib.Data.List.Nodup
import TemplateQuery.Proofs.Clause.Ledger

/-! Every triple of a document is accounted for. A required one is written exactly once. An optional one is written when
it is brought forward and when it is met, each time unless its literal counts as captured; so all triples are written
exactly once just when those that count as captured in their place are those that were brought forward. -/

set_option autoImplicit false

namespace TemplateQuery

/-- Whether subjects are closed in the order in which they open, `depth` of them being open already, and no triple
stands outside all of them. -/
def nestedFrom : Nat → List Event → Bool
  | depth, [] => depth == 0
  | depth, .startSubject _ :: rest => nestedFrom (depth + 1) rest
  | 0, .endSubject _ :: _ => false
  | depth + 1, .endSubject _ :: rest => nestedFrom depth rest
  | 0, .triple _ :: _ => false
  | depth, _ :: rest => nestedFrom depth rest

theorem nestedFrom_endDocument (depth : Nat) (events : List Event) :
    nestedFrom depth (events ++ [Event.endDocument]) = nestedFrom depth events := by
  fun_induction nestedFrom depth events <;> simp_all [nestedFrom]

/-! ## The places of the visits -/

def ofPass (pass : Pass) (seen : List Visit) : List Visit := seen.filter (·.pass == pass)

theorem ofPass_append (pass : Pass) (first later : List Visit) :
    ofPass pass (first ++ later) = ofPass pass first ++ ofPass pass later := List.filter_append ..

theorem ofPass_visitAll (pass : Pass) (n : Naming) (todo : List Place) :
    ofPass pass (visitAll pass n todo) = visitAll pass n todo := by
  induction todo generalizing n with
  | nil => rfl
  | cons place todo ih => simpa [visitAll, ofPass] using ih _

theorem ofPass_visitAll_other {pass other : Pass} (differ : other ≠ pass) (n : Naming) (todo : List Place) :
    ofPass pass (visitAll other n todo) = [] := by
  induction todo generalizing n with
  | nil => rfl
  | cons place todo ih => simpa [visitAll, ofPass, differ] using ih _

theorem place_visitAll (pass : Pass) (n : Naming) (todo : List Place) :
    (visitAll pass n todo).map Visit.place = todo := by
  induction todo generalizing n with
  | nil => rfl
  | cons place todo ih => simp [visitAll, ih]

theorem inLine_places (n : Naming) (events : List Event) :
    (ofPass .inLine (visits n events)).map Visit.place = places events := by
  fun_induction visits n events with
  | case1 => rfl
  | case2 n node rest opened own joined around ih =>
    rw [ofPass_append, ofPass_append, ofPass_visitAll_other (by decide), ofPass_visitAll_other (by decide),
      List.nil_append, List.nil_append, ih, places]
    intro t same
    cases same
  | case3 n t rest ih => simpa [ofPass, places] using ih
  | case4 n e rest _ noTriple ih =>
    rw [places]
    · exact ih
    · exact noTriple

def ownOfOpen (depth : Nat) (events : List Event) : List Place :=
  (List.range depth).flatMap (Ahead.ownPlaces · events)

theorem ownOfOpen_succ (depth : Nat) (events : List Event) :
    ownOfOpen (depth + 1) events =
      Ahead.ownPlaces 0 events ++ (List.range depth).flatMap fun i => Ahead.ownPlaces (i + 1) events := by
  simp [ownOfOpen, List.range_succ_eq_map, List.flatMap_map]

theorem ownOfOpen_startSubject (depth : Nat) (node : Node) (rest : List Event) :
    ownOfOpen (depth + 1) rest = Ahead.ownPlaces 0 rest ++ ownOfOpen depth (.startSubject node :: rest) := by
  rw [ownOfOpen_succ]
  simp [ownOfOpen, Ahead.ownPlaces]

theorem ownOfOpen_endSubject (depth : Nat) (node : Node) (rest : List Event) :
    ownOfOpen (depth + 1) (.endSubject node :: rest) = ownOfOpen depth rest := by
  rw [ownOfOpen_succ]
  simp [ownOfOpen, Ahead.ownPlaces]

theorem ownOfOpen_triple (depth : Nat) (t : Triple) (rest : List Event) :
    ownOfOpen (depth + 1) (.triple t :: rest) = ⟨rest.length, t⟩ :: ownOfOpen (depth + 1) rest := by
  rw [ownOfOpen_succ, ownOfOpen_succ]
  simp [Ahead.ownPlaces]

theorem required_places (n : Naming) (events : List Event) {depth : Nat} (nested : nestedFrom depth events = true) :
    ((ofPass .required (visits n events)).map Visit.place ++ ownOfOpen depth events).Perm (places events) := by
  -- With subjects open, their own triples ahead have been looked at already: `ownOfOpen` counts those. Opening a
  -- subject moves its triples from the visits to that count, closing it finds none of them left.
  induction events generalizing n depth with
  | nil =>
    have : depth = 0 := by simpa [nestedFrom] using nested
    subst this
    exact .refl _
  | cons e rest ih =>
    cases e with
    | startSubject node =>
      let opened := (n.resolve node none true).2
      let joined := namingAfter .required opened (Ahead.ownPlaces 0 rest)
      have later := @ih (namingAfter .forward joined (Ahead.enclosingPlaces 0 none rest)) (depth + 1) nested
      rw [ownOfOpen_startSubject depth node] at later
      simp only [visits, ofPass_append, ofPass_visitAll,
        ofPass_visitAll_other (show Pass.forward ≠ .required by decide),
        List.append_nil, List.map_append, place_visitAll]
      refine (List.perm_append_comm.append_right _).trans ?_
      rw [List.append_assoc]
      exact later
    | triple t =>
      cases depth with
      | zero => cases nested
      | succ depth =>
        have later := @ih (Visit.next ⟨⟨rest.length, t⟩, .inLine, n⟩) (depth + 1) nested
        rw [ownOfOpen_triple]
        exact List.perm_middle.trans (later.cons _)
    | endSubject node =>
      cases depth with
      | zero => cases nested
      | succ depth =>
        rw [ownOfOpen_endSubject]
        exact ih n nested
    | startDocument | endDocument | base _ | declare _ _ | startGraph _ | endGraph _ | pattern _ | comment _ | select
    | ask | whereBlock _ | optional _ | group _ | union | orderBy _ =>
      have later := ih n (show nestedFrom depth rest = true by simpa [nestedFrom] using nested)
      simpa [visits, places, ownOfOpen, Ahead.ownPlaces] using later

theorem required_places_whole (n : Naming) {events : List Event} (nested : nestedFrom 0 events = true) :
    ((ofPass .required (visits n events)).map Visit.place).Perm (places events) := by
  simpa [ownOfOpen] using required_places n events nested

theorem forward_places (n : Naming) (events : List Event) :
    ((ofPass .forward (visits n events)).map Visit.place).Sublist
      ((ofPass .required (visits n events)).map Visit.place) := by
  fun_induction visits n events with
  | case1 => exact .slnil
  | case2 n node rest opened own joined around ih =>
    simp only [ofPass_append, ofPass_visitAll, ofPass_visitAll_other (show Pass.required ≠ .forward by decide),
      ofPass_visitAll_other (show Pass.forward ≠ .required by decide), List.nil_append, List.append_nil,
      List.map_append, place_visitAll]
    exact (Ahead.enclosingPlaces_sublist 0 none rest).append ih
  | case3 n t rest ih => simpa [ofPass] using ih
  | case4 n e rest _ noTriple ih => exact ih

theorem after_lt_of_mem_places {events : List Event} {place : Place} (member : place ∈ places events) :
    place.after < events.length := by
  fun_induction places events with
  | case1 => cases member
  | case2 t rest ih =>
    rcases List.mem_cons.mp member with rfl | member
    · simp
    · exact Nat.lt_succ_of_lt (ih member)
  | case3 e rest _ ih => exact Nat.lt_succ_of_lt (ih member)

theorem nodup_places (events : List Event) : (places events).Nodup := by
  fun_induction places events with
  | case1 => exact List.nodup_nil
  | case2 t rest ih =>
    refine List.nodup_cons.mpr ⟨fun member => ?_, ih⟩
    exact Nat.lt_irrefl _ (after_lt_of_mem_places member)
  | case3 e rest _ ih => exact ih

/-! ## The balance -/

theorem perm_passes (seen : List Visit) :
    seen.Perm (ofPass .required seen ++ (ofPass .forward seen ++ ofPass .inLine seen)) := by
  induction seen with
  | nil => exact .refl _
  | cons v seen ih =>
    cases pass : v.pass with
    | required => simpa [ofPass, pass] using ih
    | forward => simpa [ofPass, pass] using (ih.cons v).trans List.perm_middle.symm
    | inLine =>
      have front : ofPass .required (v :: seen) ++ (ofPass .forward (v :: seen) ++ ofPass .inLine (v :: seen)) =
          (ofPass .required seen ++ ofPass .forward seen) ++ v :: ofPass .inLine seen := by
        simp [ofPass, pass]
      rw [front]
      refine (ih.cons v).trans ?_
      rw [← List.append_assoc]
      exact List.perm_middle.symm

def writtenPlaces (seen : List Visit) : List Place := (written seen).map Visit.place

theorem pass_of_mem_ofPass {pass : Pass} {seen : List Visit} {v : Visit} (member : v ∈ ofPass pass seen) :
    v ∈ seen ∧ v.pass = pass := by
  simpa [ofPass] using member

theorem place_mem_of_visitAll {pass : Pass} {n : Naming} {todo : List Place} {v : Visit}
    (member : v ∈ visitAll pass n todo) : v.place ∈ todo ∧ v.pass = pass := by
  constructor
  · rw [← place_visitAll pass n todo]
    exact List.mem_map_of_mem member
  · rw [← ofPass_visitAll] at member
    exact (pass_of_mem_ofPass member).2

theorem mem_writtenPlaces {seen : List Visit} {place : Place} :
    place ∈ writtenPlaces seen ↔ ∃ v ∈ seen, v.writes = true ∧ v.place = place := by
  simp [writtenPlaces, written, and_assoc]

theorem writtenPlaces_sublist (seen : List Visit) : (writtenPlaces seen).Sublist (seen.map Visit.place) :=
  List.filter_sublist.map _

def Place.isRequired (place : Place) : Bool := !place.triple.isOpen

theorem writtenPlaces_required (seen : List Visit) :
    writtenPlaces (ofPass .required seen) = ((ofPass .required seen).map Visit.place).filter Place.isRequired := by
  rw [writtenPlaces, written, List.filter_map]
  congr 1
  apply List.filter_congr
  intro v member
  simp [Visit.writes, (pass_of_mem_ofPass member).2, Place.isRequired]

theorem isRequired_of_writes {v : Visit} (late : v.pass ≠ .required) (writes : v.writes = true) :
    v.place.isRequired = false := by
  rw [Visit.writes_of_late late, Bool.and_eq_true] at writes
  simp [Place.isRequired, writes.1]

theorem optional_of_mem {pass : Pass} {seen : List Visit} (late : pass ≠ .required) {place : Place}
    (member : place ∈ writtenPlaces (ofPass pass seen)) : place.isRequired = false := by
  obtain ⟨v, among, writes, rfl⟩ := mem_writtenPlaces.mp member
  exact isRequired_of_writes ((pass_of_mem_ofPass among).2 ▸ late) writes

theorem perm_writtenPlaces {n : Naming} {events : List Event} (nested : nestedFrom 0 events = true) :
    (writtenPlaces (visits n events)).Perm ((places events).filter Place.isRequired ++
      (writtenPlaces (ofPass .forward (visits n events)) ++ writtenPlaces (ofPass .inLine (visits n events)))) := by
  have whole := ((perm_passes (visits n events)).filter Visit.writes).map Visit.place
  rw [List.filter_append, List.filter_append, List.map_append, List.map_append] at whole
  refine whole.trans (List.Perm.append_right _ ?_)
  have first := writtenPlaces_required (visits n events)
  rw [writtenPlaces, written] at first
  rw [first]
  exact (required_places_whole n nested).filter _

/-- A triple that counts as captured in its place was brought forward, and the other way round. -/
def Settled (seen : List Visit) : Prop :=
  ∀ v ∈ seen, v.pass = .inLine → v.place.triple.isOpen = true →
    (v.known.isPromoted v.place.triple = true ↔ ∃ u ∈ seen, u.pass = .forward ∧ u.place = v.place ∧ u.writes = true)

theorem required_written_once {n : Naming} {events : List Event} (nested : nestedFrom 0 events = true) :
    ((writtenPlaces (visits n events)).filter Place.isRequired).Perm ((places events).filter Place.isRequired) := by
  have late : ∀ pass, pass ≠ .required →
      (writtenPlaces (ofPass pass (visits n events))).filter Place.isRequired = [] := by
    intro pass differ
    apply List.filter_eq_nil_iff.mpr
    intro place member
    simp [optional_of_mem differ member]
  have whole := (perm_writtenPlaces (n := n) nested).filter Place.isRequired
  rw [List.filter_append, List.filter_append, late .forward (by decide), late .inLine (by decide), List.filter_filter,
    List.append_nil, List.append_nil] at whole
  simpa using whole

section Optional

variable {n : Naming} {events : List Event}

theorem mem_forward {place : Place} :
    place ∈ writtenPlaces (ofPass .forward (visits n events)) ↔
      ∃ u ∈ visits n events, u.pass = .forward ∧ u.place = place ∧ u.writes = true := by
  rw [mem_writtenPlaces]
  constructor
  · rintro ⟨u, among, writes, same⟩
    obtain ⟨member, pass⟩ := pass_of_mem_ofPass among
    exact ⟨u, member, pass, same, writes⟩
  · rintro ⟨u, member, pass, same, writes⟩
    exact ⟨u, List.mem_filter.mpr ⟨member, by simp [pass]⟩, writes, same⟩

theorem mem_inLine {v : Visit} (member : v ∈ visits n events) (pass : v.pass = .inLine) :
    v.place ∈ writtenPlaces (ofPass .inLine (visits n events)) ↔ v.writes = true := by
  have among : v ∈ ofPass .inLine (visits n events) := List.mem_filter.mpr ⟨member, by simp [pass]⟩
  have nodup := nodup_places events
  rw [← inLine_places n events] at nodup
  rw [mem_writtenPlaces]
  constructor
  · rintro ⟨u, other, writes, same⟩
    rwa [← List.inj_on_of_nodup_map nodup other among same]
  · intro writes
    exact ⟨v, among, writes, rfl⟩

theorem writes_inLine {v : Visit} (pass : v.pass = .inLine) (isOpen : v.place.triple.isOpen = true) :
    v.writes = true ↔ ¬ v.known.isPromoted v.place.triple = true := by
  simp [Visit.writes, pass, isOpen]

theorem exists_inLine {place : Place} (member : place ∈ places events) :
    ∃ v ∈ visits n events, v.pass = .inLine ∧ v.place = place := by
  rw [← inLine_places n events] at member
  obtain ⟨v, among, same⟩ := List.mem_map.mp member
  obtain ⟨inside, pass⟩ := pass_of_mem_ofPass among
  exact ⟨v, inside, pass, same⟩

theorem nodup_forward (nested : nestedFrom 0 events = true) :
    (writtenPlaces (ofPass .forward (visits n events))).Nodup ∧
      ∀ place ∈ writtenPlaces (ofPass .forward (visits n events)), place ∈ places events := by
  have required := required_places_whole n nested
  have inside := (writtenPlaces_sublist _).trans (forward_places n events)
  exact ⟨inside.nodup (required.nodup_iff.mpr (nodup_places events)), fun place member =>
    required.mem_iff.mp (inside.subset member)⟩

theorem nodup_inLine (n : Naming) (events : List Event) :
    (writtenPlaces (ofPass .inLine (visits n events))).Nodup ∧
      ∀ place ∈ writtenPlaces (ofPass .inLine (visits n events)), place ∈ places events := by
  have inside := writtenPlaces_sublist (ofPass .inLine (visits n events))
  rw [inLine_places] at inside
  exact ⟨inside.nodup (nodup_places events), fun place member => inside.subset member⟩

theorem perm_optional_iff_settled (nested : nestedFrom 0 events = true) :
    (writtenPlaces (ofPass .forward (visits n events)) ++ writtenPlaces (ofPass .inLine (visits n events))).Perm
      ((places events).filter fun place => !place.isRequired) ↔ Settled (visits n events) := by
  obtain ⟨nodupForward, forwardInside⟩ := nodup_forward (n := n) nested
  obtain ⟨nodupInLine, inLineInside⟩ := nodup_inLine n events
  constructor
  · -- Places differ pairwise, so a place is on one side only, and the side decides whether its triple was captured.
    intro balanced v member pass isOpen
    have nodup := balanced.nodup_iff.mpr ((nodup_places events).filter _)
    have apart := List.disjoint_of_nodup_append nodup
    have placed : v.place ∈ places events := by
      rw [← inLine_places n events]
      exact List.mem_map_of_mem (List.mem_filter.mpr ⟨member, by simp [pass]⟩)
    have covered := balanced.mem_iff.mpr (List.mem_filter.mpr ⟨placed, by simp [Place.isRequired, isOpen]⟩)
    rw [← mem_forward]
    constructor
    · intro captured
      rcases List.mem_append.mp covered with ahead | here
      · exact ahead
      · exact absurd captured ((writes_inLine pass isOpen).mp ((mem_inLine member pass).mp here))
    · intro ahead
      by_contra free
      exact apart ahead ((mem_inLine member pass).mpr ((writes_inLine pass isOpen).mpr free))
  · -- Conversely the two sides are disjoint and cover the optional places; neither has a place twice.
    intro settled
    have decided : ∀ place ∈ places events, place.isRequired = false →
        (place ∈ writtenPlaces (ofPass .inLine (visits n events)) ↔
          place ∉ writtenPlaces (ofPass .forward (visits n events))) := by
      intro place placed optional
      obtain ⟨v, member, pass, rfl⟩ := exists_inLine (n := n) placed
      have isOpen : v.place.triple.isOpen = true := by simpa [Place.isRequired] using optional
      rw [mem_inLine member pass, writes_inLine pass isOpen, settled v member pass isOpen, mem_forward]
    have apart : (writtenPlaces (ofPass .forward (visits n events))).Disjoint
        (writtenPlaces (ofPass .inLine (visits n events))) := by
      intro place ahead here
      exact (decided place (forwardInside place ahead) (optional_of_mem (by decide) ahead)).mp here ahead
    refine (List.perm_ext_iff_of_nodup (nodupForward.append nodupInLine apart) ((nodup_places events).filter _)).mpr ?_
    intro place
    rw [List.mem_append, List.mem_filter]
    constructor
    · rintro (ahead | here)
      · exact ⟨forwardInside place ahead, by simp [optional_of_mem (by decide) ahead]⟩
      · exact ⟨inLineInside place here, by simp [optional_of_mem (by decide) here]⟩
    · rintro ⟨placed, optional⟩
      by_cases ahead : place ∈ writtenPlaces (ofPass .forward (visits n events))
      · exact .inl ahead
      · exact .inr ((decided place placed (by simpa using optional)).mpr ahead)

/-- All triples are written exactly once just when the captured ones are those brought forward. -/
theorem perm_places_iff_settled (nested : nestedFrom 0 events = true) :
    (writtenPlaces (visits n events)).Perm (places events) ↔ Settled (visits n events) := by
  have parts := List.filter_append_perm Place.isRequired (places events)
  rw [(perm_writtenPlaces nested).congr_left, ← parts.congr_right, List.perm_append_left_iff]
  exact perm_optional_iff_settled nested

end Optional

/-- A page whose title stands on an element around a nested subject, so that it is brought forward; the nested subject
has a name. -/
def titledPage (name : String) (title : String := "?t") : List Event :=
  let page : Node := { term := .var "page" }
  let friend : Node := { term := .var "friend", origin := some "/1/2" }
  let property (s : Node) (predicate : String) (o : Node) : Event := .triple ⟨s, { term := .iri predicate }, o, false⟩
  [.startSubject page, property page "p:knows" friend, .startSubject friend,
    property friend "p:name" { term := .plain name, origin := some "/1/2/1" }, .endSubject friend,
    property page "p:title" { term := .plain title, origin := some "/1" }, .endSubject page]

end TemplateQuery
