import Mathlib.Data.List.Induction
import Mathlib.Data.List.Nodup
import TemplateQuery.Proofs.Clause.Lockstep
import TemplateQuery.Proofs.Text.Numerals

/-! Which names are given twice. A label with a number can be a label of its own, so two requests can get one name. That
happens just when a label is asked for that was also given out as the numbered name of another one, and nowhere else:
then no two holes and no two resources of a template share a variable of the query. -/

set_option autoImplicit false

namespace TemplateQuery

open Number

namespace Registry

variable {r r' : Registry} {label other key name : String}

/-! ## Numbered labels -/

def mark (n : Nat) : List Char := if n = 0 then [] else natText n

theorem toList_nth (label : String) (n : Nat) : (nth label n).toList = label.toList ++ mark n := by
  cases n with
  | zero => simp [nth, mark]
  | succ n => simp [nth, mark, natText]

theorem mark_inj {i j : Nat} (same : mark i = mark j) : i = j := by
  have digits : ∀ n, Nat.ofDigitChars 10 (mark n) 0 = n := by
    intro n
    unfold mark
    split
    · next zero => simp [zero]
    · simp [natText]
  rw [← digits i, same, digits]

theorem exists_mark {n : Nat} {front back : List Char} (nonempty : front ≠ []) (cut : mark n = front ++ back) :
    ∃ k, 0 < k ∧ k ≤ n ∧ front = mark k := by
  -- The digits behind the front are dropped one by one, from the last.
  induction back using List.reverseRecOn generalizing n with
  | nil =>
    refine ⟨n, Nat.pos_of_ne_zero ?_, Nat.le_refl n, by simpa using cut.symm⟩
    rintro rfl
    exact nonempty (by simpa [mark] using cut.symm)
  | append_singleton back last ih =>
    have positive : n ≠ 0 := by
      rintro rfl
      simp [mark] at cut
    have long : 10 ≤ n := by
      by_contra short
      have one : mark n = [Nat.digitChar n] := by
        rw [mark, if_neg positive]
        exact Nat.toDigits_of_lt_base (by omega)
      rw [one, ← List.append_assoc] at cut
      have length := congrArg List.length cut
      have := List.length_pos_iff.mpr nonempty
      simp at length
      omega
    have split : mark n = mark (n / 10) ++ [Nat.digitChar (n % 10)] := by
      rw [mark, if_neg positive, mark, if_neg (by omega)]
      exact Nat.toDigits_of_base_le (by decide) long
    rw [split, ← List.append_assoc] at cut
    obtain ⟨k, some, least, same⟩ := ih (List.append_inj_left' cut rfl)
    exact ⟨k, some, Nat.le_trans least (Nat.div_le_self n 10), same⟩

theorem exists_nth_of_longer {i j : Nat} {rest : List Char} (longer : label.toList = other.toList ++ rest)
    (same : mark j = rest ++ mark i) : label = other ∧ i = j ∨ ∃ k, 0 < k ∧ k ≤ j ∧ label = nth other k := by
  by_cases nonempty : rest = []
  · subst nonempty
    exact .inl ⟨String.toList_injective (by simpa using longer), (mark_inj (by simpa using same)).symm⟩
  · obtain ⟨k, some, least, rfl⟩ := exists_mark nonempty same
    exact .inr ⟨k, some, least, String.toList_injective (by rw [toList_nth, longer])⟩

/-- Numbered names agree only where one label is itself a numbered name of the other. -/
theorem nth_eq_nth {i j : Nat} (same : nth label i = nth other j) :
    label = other ∧ i = j ∨ (∃ k, 0 < k ∧ k ≤ j ∧ label = nth other k) ∨ ∃ k, 0 < k ∧ k ≤ i ∧ other = nth label k := by
  have same := congrArg String.toList same
  rw [toList_nth, toList_nth] at same
  rcases List.append_eq_append_iff.mp same with ⟨rest, longer, marks⟩ | ⟨rest, longer, marks⟩
  · rcases exists_nth_of_longer longer marks with ⟨labels, numbers⟩ | found
    · exact .inl ⟨labels.symm, numbers.symm⟩
    · exact .inr (.inr found)
  · rcases exists_nth_of_longer longer marks with found | found
    · exact .inl found
    · exact .inr (.inl found)

/-! ## Names given for labels -/

/-- Each request, the latest first, with its number among those for the same label. -/
def numbered : List String → List (String × Nat)
  | [] => []
  | label :: earlier => (label, earlier.count label) :: numbered earlier

def namesGiven (labels : List String) : List String := (numbered labels).map fun (label, n) => nth label n

/-- No label is also the numbered name of one that was asked for. -/
def Apart (labels : List String) : Prop :=
  ∀ label ∈ labels, ∀ other ∈ labels, ∀ n < labels.count other, 0 < n → label ≠ nth other n

instance (labels : List String) : Decidable (Apart labels) :=
  inferInstanceAs
    (Decidable (∀ label ∈ labels, ∀ other ∈ labels, ∀ n < labels.count other, 0 < n → label ≠ nth other n))

theorem apart_reverse {labels : List String} : Apart labels.reverse ↔ Apart labels := by
  simp [Apart]

theorem mem_numbered {labels : List String} {n : Nat} : (label, n) ∈ numbered labels ↔ n < labels.count label := by
  induction labels with
  | nil => simp [numbered]
  | cons first earlier ih =>
    by_cases same : first = label
    · subst same
      simp only [numbered, List.mem_cons, Prod.mk.injEq, true_and, ih, List.count_cons_self]
      omega
    · simp [numbered, ih, List.count_cons_of_ne same, Ne.symm same]

theorem nodup_numbered (labels : List String) : (numbered labels).Nodup := by
  induction labels with
  | nil => exact List.nodup_nil
  | cons label earlier ih => exact List.nodup_cons.mpr ⟨by rw [mem_numbered]; omega, ih⟩

theorem nodup_namesGiven_iff (labels : List String) : (namesGiven labels).Nodup ↔ Apart labels := by
  rw [namesGiven, List.nodup_map_iff_inj_on (nodup_numbered labels)]
  constructor
  · rintro inj label asked other asked' n less positive rfl
    -- The label without a number and the other one with it are two requests.
    have first : (nth other n, 0) ∈ numbered labels := mem_numbered.mpr (List.count_pos_iff.mpr asked)
    have second : (other, n) ∈ numbered labels := mem_numbered.mpr less
    have same := congrArg Prod.snd (inj _ first _ second rfl)
    omega
  · rintro apart ⟨label, i⟩ first ⟨other, j⟩ second same
    rw [mem_numbered] at first second
    have asked : label ∈ labels := List.count_pos_iff.mp (by omega)
    have asked' : other ∈ labels := List.count_pos_iff.mp (by omega)
    rcases nth_eq_nth same with ⟨rfl, rfl⟩ | ⟨k, positive, least, rfl⟩ | ⟨k, positive, least, rfl⟩
    · rfl
    · exact absurd rfl (apart _ asked other asked' k (by omega) positive)
    · exact absurd rfl (apart _ asked' label asked k (by omega) positive)

/-! ## Runs -/

inductive Request where
  | next (label : String)
  | name (key : String) (label? : Option String)
  | known (key : String)

def serve (r : Registry) : Request → Except Violation (Option String × Registry)
  | .next label => (r.fresh label).map fun (name, r) => (some name, r)
  | .name key label? => r.nameFor key label?
  | .known key => .ok (r.lookup key, r)

def Request.label? (named : List String) : Request → Option String
  | .next label => some label
  | .name key label? => if key ∈ named then none else label?
  | .known _ => none

def Request.naming (named : List String) : Request → List String
  | .name key (some _) => if key ∈ named then named else key :: named
  | _ => named

def labels (named : List String) : List Request → List String
  | [] => []
  | request :: later => (request.label? named).toList ++ labels (request.naming named) later

def run (r : Registry) : List Request → Except Violation (List String × Registry)
  | [] => .ok ([], r)
  | request :: later => do
    let (answer, s) ← r.serve request
    let (names, s) ← s.run later
    return ((if (request.label? (r.names.map Prod.fst)).isSome then answer.toList else []) ++ names, s)

theorem lookup_eq_none_iff : r.lookup key = none ↔ key ∉ r.names.map Prod.fst := by
  rw [lookup, List.lookup_eq_none_iff, List.mem_map]
  constructor
  · rintro other ⟨entry, member, rfl⟩
    exact absurd (other entry member) (by simp)
  · intro absent entry member
    exact bne_iff_ne.mpr fun same => absent ⟨entry, member, same.symm⟩

/-- A request makes the next name of its label as long as that can be counted, and without one changes nothing. -/
theorem serve_cases (r : Registry) (request : Request) :
    (∃ label, request.label? (r.names.map Prod.fst) = some label ∧
      (UInt32.size ≤ r.requests.count label ∧ r.serve request = .error (.exhausted label) ∨
        r.requests.count label < UInt32.size ∧ ∃ s, r.serve request = .ok (nth label (r.requests.count label), s) ∧
          s.requests = label :: r.requests ∧ s.names.map Prod.fst = request.naming (r.names.map Prod.fst))) ∨
    request.label? (r.names.map Prod.fst) = none ∧ request.naming (r.names.map Prod.fst) = r.names.map Prod.fst ∧
      ∃ answer, r.serve request = .ok (answer, r) := by
  cases request with
  | known key => exact .inr ⟨rfl, rfl, _, rfl⟩
  | next label =>
    refine .inl ⟨label, rfl, ?_⟩
    rcases Nat.lt_or_ge (r.requests.count label) UInt32.size with few | many
    · refine .inr ⟨few, { r with requests := label :: r.requests }, ?_, rfl, rfl⟩
      rw [serve, fresh_of_lt few]
      rfl
    · exact .inl ⟨many, by rw [serve, fresh_of_le many]; rfl⟩
  | name key label? =>
    cases known : r.lookup key with
    | some name =>
      have member : key ∈ r.names.map Prod.fst := by
        by_contra unknown
        rw [lookup_eq_none_iff.mpr unknown] at known
        cases known
      refine .inr ⟨if_pos member, ?_, _, nameFor_of_lookup known label?⟩
      cases label? with
      | none => rfl
      | some label => exact if_pos member
    | none =>
      have absent := lookup_eq_none_iff.mp known
      cases label? with
      | none => exact .inr ⟨if_neg absent, rfl, _, nameFor_none r key⟩
      | some label =>
        refine .inl ⟨label, if_neg absent, ?_⟩
        rcases Nat.lt_or_ge (r.requests.count label) UInt32.size with few | many
        · refine .inr ⟨few, ⟨label :: r.requests, (key, nth label (r.requests.count label)) :: r.names⟩, ?_, rfl,
            (if_neg absent).symm⟩
          rw [serve, nameFor_of_unknown known, fresh_of_lt few]
          rfl
        · refine .inl ⟨many, ?_⟩
          rw [serve, nameFor_of_unknown known, fresh_of_le many]
          rfl

theorem run_of_serve {request : Request} {answer : Option String} {s : Registry}
    (served : r.serve request = .ok (answer, s)) (later : List Request) :
    r.run (request :: later) = (s.run later).map fun (names, s') =>
      ((if (request.label? (r.names.map Prod.fst)).isSome then answer.toList else []) ++ names, s') := by
  rw [run, served]
  cases ran : s.run later with
  | error v => simp [bind, Except.bind, Except.map, ran]
  | ok final => simp [bind, Except.bind, Except.map, pure, Except.pure, ran]

theorem run_cases (r : Registry) (requests : List Request) :
    (∃ names s, r.run requests = .ok (names, s) ∧
      s.requests = (labels (r.names.map Prod.fst) requests).reverse ++ r.requests ∧
      namesGiven s.requests = names.reverse ++ namesGiven r.requests ∧
      ∀ label ∈ labels (r.names.map Prod.fst) requests, s.requests.count label ≤ UInt32.size) ∨
    ∃ label ∈ labels (r.names.map Prod.fst) requests, r.run requests = .error (.exhausted label) ∧
      UInt32.size < ((labels (r.names.map Prod.fst) requests).reverse ++ r.requests).count label := by
  induction requests generalizing r with
  | nil => exact .inl ⟨[], r, rfl, rfl, rfl, by simp [labels]⟩
  | cons request later ih =>
    rcases r.serve_cases request with ⟨label, asks, ⟨many, served⟩ | ⟨few, s, served, asked, named⟩⟩ |
      ⟨asks, named, answer, served⟩
    · refine .inr ⟨label, by simp [labels, asks], by rw [run, served]; rfl, ?_⟩
      simp only [labels, asks, Option.toList_some, List.singleton_append, List.reverse_cons, List.count_append,
        List.count_singleton_self]
      omega
    · rcases ih s with ⟨names, s', ran, asked', given, counted⟩ | ⟨other, member, ran, many⟩
      · refine .inl ⟨nth label (r.requests.count label) :: names, s', ?_, ?_, ?_, ?_⟩
        · rw [run_of_serve served, ran, asks]
          rfl
        · rw [asked', asked, named]
          simp [labels, asks]
        · rw [given, asked]
          simp [namesGiven, numbered]
        · intro other member
          rw [labels, asks, ← named] at member
          rcases List.mem_cons.mp member with rfl | member
          · by_cases again : other ∈ labels (s.names.map Prod.fst) later
            · exact counted other again
            · rw [asked', asked, List.count_append, List.count_reverse, List.count_eq_zero_of_not_mem again,
                List.count_cons_self]
              omega
          · exact counted other member
      · refine .inr ⟨other, ?_, ?_, ?_⟩
        · simp [labels, asks, ← named, member]
        · rw [run_of_serve served, ran]
          rfl
        · rw [asked, named] at many
          simpa [labels, asks] using many
    · have same : labels (r.names.map Prod.fst) (request :: later) = labels (r.names.map Prod.fst) later := by
        simp [labels, asks, named]
      rw [same]
      rcases ih r with ⟨names, s, ran, rest⟩ | ⟨label, member, ran, many⟩
      · refine .inl ⟨names, s, ?_, rest⟩
        rw [run_of_serve served, ran, asks]
        rfl
      · refine .inr ⟨label, member, ?_, many⟩
        rw [run_of_serve served, ran]
        rfl

theorem lookup_serve {request : Request} {answer : Option String} (known : r.lookup key = some name)
    (served : r.serve request = .ok (answer, r')) : r'.lookup key = some name := by
  cases request with
  | known _ => cases served; exact known
  | next label =>
    rw [serve] at served
    cases made : r.fresh label with
    | error v => rw [made] at served; cases served
    | ok made' =>
      obtain ⟨given, s⟩ := made'
      obtain ⟨-, -, rfl⟩ := fresh_ok made
      rw [made] at served
      cases served
      exact known
  | name other label? =>
    rw [lookup_nameFor served]
    split
    · next same =>
      subst same
      rw [serve, nameFor_of_lookup known] at served
      cases served
      rfl
    · exact known

theorem lookup_run {requests : List Request} {names : List String} (known : r.lookup key = some name)
    (ran : r.run requests = .ok (names, r')) : r'.lookup key = some name := by
  induction requests generalizing r names with
  | nil => cases ran; exact known
  | cons request later ih =>
    cases served : r.serve request with
    | error v =>
      rw [run, served] at ran
      cases ran
    | ok answer =>
      rw [run_of_serve served] at ran
      cases rest : answer.2.run later with
      | error v =>
        rw [rest] at ran
        cases ran
      | ok final =>
        rw [rest] at ran
        cases ran
        exact ih (lookup_serve known served) rest

end Registry

/-! ## Names in a query -/

/-- What a template leaves open: one end of a triple in its place, or a resource wherever it stands. -/
inductive Spot where
  | hole (place : Place) (isObject : Bool)
  | resource (key : String)

def Node.spot? (node : Node) (hole : Spot) : Option Spot :=
  match node.term.role with
  | .hole => some hole
  | .resource key => some (.resource key)
  | _ => none

def Visit.named (v : Visit) : List (Spot × Term) :=
  match v.outcome with
  | .error _ => []
  | .ok p =>
    (v.place.triple.subject.spot? (.hole v.place false)).toList.map (·, p.subject) ++
      (v.place.triple.object.spot? (.hole v.place true)).toList.map (·, p.object)

def registryAfter (seen : List Visit) : Registry := seen.foldl (fun _ v => v.next.registry) {}

/-- Each visit goes on with what the one before knows, as far as `view` shows it. -/
def Successive {α : Type} (view : Naming → α) (a : α) : List Visit → Prop
  | [] => True
  | v :: later => view v.known = a ∧ Successive view (view v.next) later

section Successive

variable {α : Type} {view : Naming → α}

theorem successive_visitAll {pass : Pass} {n : Naming} {places : List Place} {later : List Visit}
    (successive : Successive view (view (namingAfter pass n places)) later) :
    Successive view (view n) (visitAll pass n places ++ later) := by
  induction places generalizing n with
  | nil => exact successive
  | cons place rest ih => exact ⟨rfl, ih successive⟩

theorem successive_visits {n : Naming} {events : List Event}
    (unseen : ∀ n node, .startSubject node ∈ events → view (n.resolve node none true).2 = view n) :
    Successive view (view n) (visits n events) := by
  fun_induction visits n events with
  | case1 => trivial
  | case2 n node rest opened own joined around ih =>
    rw [List.append_assoc, ← unseen n node List.mem_cons_self]
    refine successive_visitAll (successive_visitAll (ih fun n node later => ?_))
    exact unseen n node (List.mem_cons_of_mem _ later)
  | case3 n t rest ih => exact ⟨rfl, ih fun n node later => unseen n node (List.mem_cons_of_mem _ later)⟩
  | case4 n e rest _ _ ih => exact ih fun n node later => unseen n node (List.mem_cons_of_mem _ later)

end Successive

/-- The names given so far, each with what it was given to. -/
structure Ledger (r : Registry) (given : List (Spot × String)) : Prop where
  names : given.map Prod.snd = Registry.namesGiven r.requests
  keys : ∀ key name, (.resource key, name) ∈ given ↔ r.lookup key = some name

namespace Ledger

variable {r : Registry} {n n' : Naming} {given : List (Spot × String)}

def Entered (given : List (Spot × String)) (spot : Spot) (t : Term) : Prop :=
  ∃ name, (spot, name) ∈ given ∧ t = .var ("_" ++ name)

theorem Entered.mono {given given' : List (Spot × String)} {spot : Spot} {t : Term} (entered : Entered given spot t)
    (more : given ⊆ given') : Entered given' spot t := by
  obtain ⟨name, member, same⟩ := entered
  exact ⟨name, more member, same⟩

theorem fresh {r' : Registry} {label name : String} (ledger : Ledger r given) (made : r.fresh label = .ok (name, r'))
    (place : Place) (isObject : Bool) : Ledger r' ((.hole place isObject, name) :: given) := by
  obtain ⟨-, rfl, rfl⟩ := Registry.fresh_ok made
  refine ⟨by simp [Registry.namesGiven, Registry.numbered, ledger.names], fun key name => ?_⟩
  simpa [Registry.lookup] using ledger.keys key name

theorem nameFor {r' : Registry} {key label : String} {name? : Option String} (ledger : Ledger r given)
    (named : r.nameFor key (some label) = .ok (name?, r')) :
    ∃ given' name, name? = some name ∧ Ledger r' given' ∧ given ⊆ given' ∧ (.resource key, name) ∈ given' := by
  rcases Registry.nameFor_ok named with ⟨rfl, rfl, labelled⟩ | ⟨_, name, s, same, unknown, made, rfl, rfl⟩
  · obtain ⟨name, known⟩ := Option.ne_none_iff_exists'.mp fun none => nomatch labelled none
    exact ⟨given, name, known, ledger, fun _ member => member, (ledger.keys key name).mpr known⟩
  · obtain ⟨-, rfl, rfl⟩ := Registry.fresh_ok made
    refine ⟨(.resource key, _) :: given, _, rfl, ⟨?_, ?_⟩, List.subset_cons_self _ _, List.mem_cons_self⟩
    · simp [Registry.namesGiven, Registry.numbered, ledger.names]
    · intro other name
      rw [Registry.lookup_nameFor named, List.mem_cons, ledger.keys]
      by_cases same : other = key
      · subst same
        simp [unknown, eq_comm]
      · simp [same]

theorem asked {node : Node} {t : Triple} {name : String} {registry : Registry} (ledger : Ledger n.registry given)
    (place : Place) (isObject : Bool) (asked : n.asked? node (some t) = .ok (some (name, registry))) :
    ∃ given', Ledger registry given' ∧ given ⊆ given' ∧
      ∀ spot, node.spot? (.hole place isObject) = some spot → Entered given' spot (.var name) := by
  unfold Naming.asked? at asked
  unfold Node.spot?
  cases role : node.term.role with
  | itself | pinned _ | named _ =>
    simp only [role] at asked
    cases asked <;> exact ⟨given, ledger, fun _ member => member, by simp⟩
  | hole =>
    -- A hole has a name made for it in every place, a resource only where it has none yet.
    simp only [role, Option.map_some] at asked
    cases made : n.registry.fresh (n.label node t) with
    | error v => rw [made] at asked; cases asked
    | ok answer =>
      rw [made] at asked
      cases asked
      refine ⟨_, ledger.fresh made place isObject, List.subset_cons_self _ _, ?_⟩
      rintro spot ⟨⟩
      exact ⟨_, List.mem_cons_self, rfl⟩
  | resource key =>
    simp only [role, Option.map_some] at asked
    cases named : n.registry.nameFor key (some (n.label node t)) with
    | error v => rw [named] at asked; cases asked
    | ok answer =>
      rw [named] at asked
      cases asked
      obtain ⟨given', name, same, ledger', more, member⟩ := ledger.nameFor named
      refine ⟨given', ledger', more, ?_⟩
      rintro spot ⟨⟩
      exact ⟨name, member, by rw [same]; rfl⟩

theorem resolve {node : Node} {t : Triple} {outcome : Except Violation Term} (ledger : Ledger n.registry given)
    (place : Place) (isObject : Bool) (found : n.resolve node (some t) true = (outcome, n')) :
    ∃ given', Ledger n'.registry given' ∧ given ⊆ given' ∧
      ∀ u spot, outcome = .ok u → node.spot? (.hole place isObject) = some spot → Entered given' spot u := by
  unfold Naming.resolve at found
  split at found
  · cases found
    exact ⟨given, ledger, fun _ member => member, by simp⟩
  · next asked =>
    cases found
    refine ⟨given, ledger, fun _ member => member, fun u spot _ spotted => ?_⟩
    simp [Node.spot?, Naming.asked?_eq_none_iff.mp asked] at spotted
  · next name registry asked =>
    obtain ⟨rfl, rfl⟩ := Prod.mk.inj found
    obtain ⟨given', ledger', more, entered⟩ := ledger.asked place isObject asked
    refine ⟨given', by rwa [Naming.capture_registry], more, fun u spot named spotted => ?_⟩
    obtain ⟨rfl, -⟩ := Term.variable_eq_ok named
    exact entered spot spotted

theorem next {v : Visit} (ledger : Ledger v.known.registry given) (resolves : v.resolves = true) :
    ∃ given', Ledger v.next.registry given' ∧ given ⊆ given' ∧
      ∀ entry ∈ v.named, Entered given' entry.1 entry.2 := by
  unfold Visit.named Visit.outcome
  rw [Visit.next, if_pos resolves]
  unfold Naming.pattern
  cases first : v.known.resolve v.place.triple.subject (some v.place.triple) true with
  | mk subject n =>
    obtain ⟨given₁, ledger₁, more₁, entered₁⟩ := ledger.resolve v.place false first
    cases subject with
    | error violation => exact ⟨given₁, ledger₁, more₁, by simp⟩
    | ok subject =>
      simp only
      cases second : n.resolve v.place.triple.object (some v.place.triple) true with
      | mk object n =>
        obtain ⟨given₂, ledger₂, more₂, entered₂⟩ := ledger₁.resolve v.place true second
        cases object with
        | error violation => exact ⟨given₂, ledger₂, List.Subset.trans more₁ more₂, by simp⟩
        | ok object =>
          refine ⟨given₂, ledger₂, List.Subset.trans more₁ more₂, ?_⟩
          rintro ⟨spot, t⟩ member
          simp only [List.mem_append, List.mem_map, Option.mem_toList, Prod.mk.injEq] at member
          rcases member with ⟨_, open_, rfl, rfl⟩ | ⟨_, open_, rfl, rfl⟩
          · exact (entered₁ _ _ rfl open_).mono more₂
          · exact entered₂ _ _ rfl open_

theorem visits {seen : List Visit} (ledger : Ledger r given) (successive : Successive Naming.registry r seen) :
    ∃ given', Ledger (seen.foldl (fun _ v => v.next.registry) r) given' ∧ given ⊆ given' ∧
      ∀ v ∈ seen, v.resolves = true → ∀ entry ∈ v.named, Entered given' entry.1 entry.2 := by
  induction seen generalizing r given with
  | nil => exact ⟨given, ledger, fun _ member => member, by simp⟩
  | cons v later ih =>
    obtain ⟨rfl, successive⟩ := successive
    by_cases resolves : v.resolves = true
    · obtain ⟨given₁, ledger₁, more₁, entered₁⟩ := ledger.next resolves
      obtain ⟨given₂, ledger₂, more₂, entered₂⟩ := ih ledger₁ successive
      refine ⟨given₂, ledger₂, List.Subset.trans more₁ more₂, ?_⟩
      rintro u member resolves entry named
      rcases List.mem_cons.mp member with rfl | member
      · exact (entered₁ entry named).mono more₂
      · exact entered₂ u member resolves entry named
    · have same : v.next = v.known := if_neg resolves
      rw [same] at successive
      obtain ⟨given', ledger', more, entered⟩ := ih ledger successive
      rw [List.foldl_cons, same]
      refine ⟨given', ledger', more, ?_⟩
      rintro u member resolves' entry named
      rcases List.mem_cons.mp member with rfl | member
      · exact absurd resolves' resolves
      · exact entered u member resolves' entry named

theorem spot_inj (ledger : Ledger r given) (apart : Registry.Apart r.requests) {spot spot' : Spot} {t : Term}
    (first : Entered given spot t) (second : Entered given spot' t) : spot = spot' := by
  obtain ⟨name, member, rfl⟩ := first
  obtain ⟨name', member', same⟩ := second
  obtain rfl : name = name' := by simpa using same
  have distinct : (given.map Prod.snd).Nodup := by
    rw [ledger.names]
    exact (Registry.nodup_namesGiven_iff _).mpr apart
  exact congrArg Prod.fst (List.inj_on_of_nodup_map distinct member member' rfl)

theorem term_inj (ledger : Ledger r given) {key : String} {t u : Term} (first : Entered given (.resource key) t)
    (second : Entered given (.resource key) u) : t = u := by
  obtain ⟨name, member, rfl⟩ := first
  obtain ⟨name', member', rfl⟩ := second
  rw [ledger.keys] at member member'
  cases member.symm.trans member'
  rfl

end Ledger

theorem successive_registry (events : List Event) :
    Successive Naming.registry (Naming.registry {}) (visits {} events) :=
  successive_visits fun n node _ => n.registry_resolve_alone node true

theorem exists_ledger (events : List Event) :
    ∃ given, Ledger (registryAfter (visits {} events)) given ∧
      ∀ v ∈ visits {} events, v.resolves = true → ∀ entry ∈ v.named, Ledger.Entered given entry.1 entry.2 := by
  have blank : Ledger {} [] := ⟨rfl, by simp [Registry.lookup]⟩
  obtain ⟨given, ledger, -, entered⟩ := blank.visits (successive_registry events)
  exact ⟨given, ledger, entered⟩

/-- Requests are served as long as no label is asked for more often than 32 bits count. The names made for them are
different just when no label that was asked for is a numbered name of another one, and what a resource was named once
it stays named. In a query then no two holes share a variable, no two resources do, and no hole shares one with a
resource. -/
theorem names_distinct_iff_apart (requests : List Registry.Request) :
    let labels := Registry.labels [] requests
    ((∃ names r, Registry.run {} requests = .ok (names, r)) ↔ ∀ label ∈ labels, labels.count label ≤ UInt32.size) ∧
    (∀ names r, Registry.run {} requests = .ok (names, r) → (names.Nodup ↔ Registry.Apart labels)) ∧
    (∀ (r r' s : Registry) key label? name later names, r.nameFor key label? = .ok (some name, r') →
      r'.run later = .ok (names, s) → s.lookup key = some name ∧
        ∀ label?', s.nameFor key label?' = .ok (some name, s)) ∧
    ∀ layout events out, compile layout events = .ok out →
      let seen := visits {} events
      let ends := (written seen).flatMap Visit.named
      (patterns out).map Except.ok = (written seen).map Visit.outcome ∧
      (Registry.Apart (registryAfter seen).requests → ∀ a ∈ ends, ∀ b ∈ ends, a.2 = b.2 → a.1 = b.1) ∧
      ∀ a ∈ ends, ∀ b ∈ ends, ∀ key, a.1 = .resource key → b.1 = .resource key → a.2 = b.2 := by
  intro labels
  have cases := Registry.run_cases {} requests
  simp only [List.map_nil, List.append_nil] at cases
  refine ⟨?_, ?_, ?_, fun layout events out compiled => ?_⟩
  · rcases cases with ⟨names, r, ran, asked, -, counted⟩ | ⟨label, member, ran, many⟩
    · refine iff_of_true ⟨names, r, ran⟩ fun label member => ?_
      simpa [asked] using counted label member
    · refine iff_of_false (fun ⟨names, r, ok⟩ => nomatch ran.symm.trans ok) fun counted => ?_
      rw [List.count_reverse] at many
      exact Nat.not_le.mpr many (counted label member)
  · intro names r ran
    rcases cases with ⟨_, _, ran', asked, given, -⟩ | ⟨label, member, ran', many⟩
    · cases ran.symm.trans ran'
      have distinct := Registry.nodup_namesGiven_iff r.requests
      rw [given, asked, Registry.apart_reverse] at distinct
      simpa [Registry.namesGiven, Registry.numbered] using distinct
    · cases ran.symm.trans ran'
  · intro r r' s key label? name later names named ran
    have known : r'.lookup key = some name := by rw [Registry.lookup_nameFor named, if_pos rfl]
    have still := Registry.lookup_run known ran
    exact ⟨still, Registry.nameFor_of_lookup still⟩
  · obtain ⟨clean, same⟩ := compile_eq_ok compiled
    obtain ⟨given, ledger, entered⟩ := exists_ledger events
    have entered : ∀ a ∈ (written (visits {} events)).flatMap Visit.named, Ledger.Entered given a.1 a.2 := by
      intro a member
      obtain ⟨v, writes, named⟩ := List.mem_flatMap.mp member
      obtain ⟨seen, writes⟩ := List.mem_filter.mp writes
      exact entered v seen (Visit.resolves_of_writes writes) a named
    refine ⟨by rw [← same]; exact patterns_of_ofSession clean, ?_, ?_⟩
    · intro apart a first b second shared
      exact ledger.spot_inj apart (entered a first) (shared ▸ entered b second)
    · intro a first b second key isKey isKey'
      exact ledger.term_inj (isKey ▸ entered a first) (isKey' ▸ entered b second)

/-- A page with properties to be filled in, and one that leads to a resource. -/
def questionnaire (predicates : List String) : List Event :=
  let page : Node := { term := .reference "?this" "p:this" }
  let property (o : Term) (predicate : String) : Event :=
    .triple ⟨page, { term := .iri predicate }, { term := o }, false⟩
  [.startDocument, .startSubject page] ++ predicates.map (property (.plain "")) ++
    [property (.blank "b") "p:friend", .endSubject page, .endDocument]

/-- Under `name` and `title` the variables of a page are different. Under `name` twice and `name1` the last two are
one. -/
theorem names_distinct_iff_apart_questionnaire :
    let objects (predicates : List String) := (compile {} (questionnaire predicates)).map fun out =>
      (patterns out).map Pattern.object
    let ends (predicates : List String) := (written (visits {} (questionnaire predicates))).flatMap Visit.named
    let requests (label : String) : List Registry.Request := [.next "name", .name "_:b" (some "name"), .next label]
    (objects ["p:name", "p:name", "p:title"] = .ok [.var "_name", .var "_name1", .var "_title", .var "_friend"] ∧
      (∀ a ∈ ends ["p:name", "p:name", "p:title"], ∀ b ∈ ends ["p:name", "p:name", "p:title"], a.2 = b.2 → a.1 = b.1) ∧
      (∃ names r, Registry.run {} (requests "title") = .ok (names, r)) ∧
      ∀ names r, Registry.run {} (requests "title") = .ok (names, r) → names.Nodup) ∧
    (objects ["p:name", "p:name", "p:name1"] = .ok [.var "_name", .var "_name1", .var "_name1", .var "_friend"] ∧
      ∀ names r, Registry.run {} (requests "name1") = .ok (names, r) → ¬ names.Nodup) := by
  intro objects ends requests
  have apart : objects ["p:name", "p:name", "p:title"] =
      .ok [.var "_name", .var "_name1", .var "_title", .var "_friend"] := by decide +kernel
  have shared : objects ["p:name", "p:name", "p:name1"] =
      .ok [.var "_name", .var "_name1", .var "_name1", .var "_friend"] := by decide +kernel
  obtain ⟨out, compiled⟩ : ∃ out, compile {} (questionnaire ["p:name", "p:name", "p:title"]) = .ok out := by
    cases ran : compile {} (questionnaire ["p:name", "p:name", "p:title"]) with
    | error v => simp only [objects, ran] at apart; cases apart
    | ok out => exact ⟨out, rfl⟩
  obtain ⟨served, distinct, -, compilation⟩ := names_distinct_iff_apart (requests "title")
  obtain ⟨-, distinct', -⟩ := names_distinct_iff_apart (requests "name1")
  refine ⟨⟨apart, ?_, served.mpr (by decide +kernel), fun names r ran => ?_⟩, shared, fun names r ran => ?_⟩
  · exact (compilation _ _ out compiled).2.1 (by decide +kernel)
  · exact (distinct names r ran).mpr (by decide +kernel)
  · exact mt (distinct' names r ran).mp (by decide +kernel)

end TemplateQuery
