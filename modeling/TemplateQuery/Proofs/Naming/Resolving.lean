import TemplateQuery.Naming

/-! What resolving a node does to the names given so far. A node stays what it is, or becomes the variable of a name
that it asks for; the registry answers with the name it knows or makes one, as long as it can count the requests. -/

set_option autoImplicit false

namespace TemplateQuery

namespace Registry

variable {r r' : Registry} {key other label name : String} {label? name? : Option String}

theorem fresh_ok (made : r.fresh label = .ok (name, r')) :
    r.requests.count label < UInt32.size ∧ name = nth label (r.requests.count label) ∧
      r' = { r with requests := label :: r.requests } := by
  unfold fresh at made
  dsimp only at made
  split at made
  · next counted => cases made; exact ⟨counted, rfl, rfl⟩
  · cases made

theorem fresh_of_lt (counted : r.requests.count label < UInt32.size) :
    r.fresh label = .ok (nth label (r.requests.count label), { r with requests := label :: r.requests }) :=
  if_pos counted

theorem fresh_of_le (many : UInt32.size ≤ r.requests.count label) : r.fresh label = .error (.exhausted label) :=
  if_neg (Nat.not_lt.mpr many)

theorem nameFor_of_lookup (known : r.lookup key = some name) (label? : Option String) :
    r.nameFor key label? = .ok (some name, r) := by
  simp [nameFor, known]

theorem nameFor_none (r : Registry) (key : String) : r.nameFor key none = .ok (r.lookup key, r) := by
  cases known : r.lookup key <;> simp [nameFor, known]

theorem nameFor_of_unknown (unknown : r.lookup key = none) :
    r.nameFor key (some label) =
      (r.fresh label).map fun made => (some made.1, { made.2 with names := (key, made.1) :: made.2.names }) := by
  simp only [nameFor, unknown]
  cases r.fresh label <;> rfl

theorem nameFor_ok (named : r.nameFor key label? = .ok (name?, r')) :
    r' = r ∧ name? = r.lookup key ∧ (name? = none → label? = none) ∨
    ∃ label name s, label? = some label ∧ r.lookup key = none ∧ r.fresh label = .ok (name, s) ∧ name? = some name ∧
      r' = { s with names := (key, name) :: s.names } := by
  cases label? with
  | none =>
    rw [nameFor_none] at named
    cases named
    exact .inl ⟨rfl, rfl, fun _ => rfl⟩
  | some label =>
    cases known : r.lookup key with
    | some name =>
      rw [nameFor_of_lookup known] at named
      cases named
      exact .inl ⟨rfl, rfl, nofun⟩
    | none =>
      rw [nameFor_of_unknown known] at named
      cases made : r.fresh label with
      | error v => rw [made] at named; cases named
      | ok answer =>
        obtain ⟨name, s⟩ := answer
        rw [made] at named
        cases named
        exact .inr ⟨label, name, s, rfl, rfl, made, rfl, rfl⟩

theorem lookup_nameFor (named : r.nameFor key label? = .ok (name?, r')) (other : String) :
    r'.lookup other = if other = key then name? else r.lookup other := by
  rcases nameFor_ok named with ⟨rfl, rfl, -⟩ | ⟨label, name, s, rfl, unknown, made, rfl, rfl⟩
  · split
    · next same => rw [same]
    · rfl
  · obtain ⟨-, -, rfl⟩ := fresh_ok made
    by_cases same : other = key
    · simp [lookup, same]
    · simp [lookup, List.lookup_cons, beq_false_of_ne same, same]

end Registry

theorem Term.variable_eq_ok {name : String} {t : Term} (found : Term.variable name = .ok t) :
    t = .var name ∧ Token.isVarName name.toList = true := by
  unfold Term.variable at found
  split at found
  · next valid => cases found; exact ⟨rfl, valid⟩
  · cases found

theorem Term.variable_eq_ok_iff {name : String} :
    (∃ t, Term.variable name = .ok t) ↔ Token.isVarName name.toList = true := by
  constructor
  · rintro ⟨t, found⟩
    exact (variable_eq_ok found).2
  · intro valid
    exact ⟨.var name, if_pos valid⟩

namespace Naming

variable {n n' : Naming} {node : Node} {triple? : Option Triple} {record : Bool} {name : String}
  {registry : Registry} {t : Term}

@[simp]
theorem capture_registry (wanted : Bool) (name : String) (node : Node) :
    (n.capture wanted name node).registry = n.registry := by
  unfold capture
  split <;> rfl

@[simp] theorem capture_false (name : String) (node : Node) : n.capture false name node = n := rfl

/-! ## What is asked for -/

theorem asked?_eq_none_iff : n.asked? node triple? = .ok none ↔ node.term.role = .itself := by
  unfold asked?
  cases node.term.role with
  | itself => simp
  | pinned name | named name => simp
  | hole =>
    cases triple? with
    | none => simp
    | some u => cases made : n.registry.fresh (n.label node u) <;> simp [made, Except.map]
  | resource key => cases named : n.registry.nameFor key (triple?.map (n.label node)) <;> simp [named, Except.map]

theorem role_ne_itself (asked : n.asked? node triple? = .ok (some (name, registry))) : node.term.role ≠ .itself := by
  intro role
  rw [asked?_eq_none_iff.mpr role] at asked
  cases asked

/-- The names given so far stay as they are, a hole gets the next name of its label, or a resource its name. -/
theorem asked?_cases (asked : n.asked? node triple? = .ok (some (name, registry))) :
    registry = n.registry ∨
    (∃ u given, triple? = some u ∧ n.registry.fresh (n.label node u) = .ok (given, registry) ∧ name = "_" ++ given) ∨
    ∃ key name?, n.registry.nameFor key (triple?.map (n.label node)) = .ok (name?, registry) ∧
      name = "_" ++ name?.getD "" := by
  unfold asked? at asked
  cases role : node.term.role with
  | itself => simp only [role] at asked; cases asked
  | pinned _ | named _ => simp only [role] at asked; cases asked; exact .inl rfl
  | hole =>
    cases triple? with
    | none => simp only [role, Option.map_none] at asked; cases asked; exact .inl rfl
    | some u =>
      simp only [role, Option.map_some] at asked
      cases made : n.registry.fresh (n.label node u) with
      | error v => rw [made] at asked; cases asked
      | ok answer => rw [made] at asked; cases asked; exact .inr (.inl ⟨u, _, rfl, made, rfl⟩)
  | resource key =>
    simp only [role] at asked
    cases named : n.registry.nameFor key (triple?.map (n.label node)) with
    | error v => rw [named] at asked; cases asked
    | ok answer => rw [named] at asked; cases asked; exact .inr (.inr ⟨key, _, named, rfl⟩)

theorem asked?_alone (asked : n.asked? node none = .ok (some (name, registry))) : registry = n.registry := by
  rcases asked?_cases asked with same | ⟨u, given, within, -⟩ | ⟨key, name?, named, -⟩
  · exact same
  · cases within
  · rw [Option.map_none, Registry.nameFor_none] at named
    cases named
    rfl

theorem lookup_asked? {key given : String} (asked : n.asked? node triple? = .ok (some (name, registry)))
    (known : registry.lookup key = some given) : n.registry.lookup key = some given ∨ name = "_" ++ given := by
  rcases asked?_cases asked with rfl | ⟨u, _, -, made, -⟩ | ⟨other, name?, named, rfl⟩
  · exact .inl known
  · obtain ⟨-, -, rfl⟩ := Registry.fresh_ok made
    exact .inl known
  · rw [Registry.lookup_nameFor named] at known
    split at known
    · exact .inr (by rw [known, Option.getD_some])
    · exact .inl known

theorem lookup_of_asked? {key given : String} (asked : n.asked? node triple? = .ok (some (name, registry)))
    (known : n.registry.lookup key = some given) : registry.lookup key = some given := by
  rcases asked?_cases asked with rfl | ⟨u, _, -, made, -⟩ | ⟨other, name?, named, -⟩
  · exact known
  · obtain ⟨-, -, rfl⟩ := Registry.fresh_ok made
    exact known
  · rw [Registry.lookup_nameFor named]
    split
    · next same =>
      subst same
      rw [Registry.nameFor_of_lookup known] at named
      cases named
      rfl
    · exact known

/-! ## What is found -/

/-- A node that resolves stays what it is and changes nothing, or becomes the variable it asks for. -/
theorem resolve_ok (found : n.resolve node triple? record = (.ok t, n')) :
    node.term.role = .itself ∧ t = node.term ∧ n' = n ∨
    ∃ name registry wanted, n.asked? node triple? = .ok (some (name, registry)) ∧ t = .var name ∧
      Token.isVarName name.toList = true ∧ n' = { n with registry }.capture wanted name node := by
  unfold resolve at found
  split at found
  · cases found
  · next asked => cases found; exact .inl ⟨asked?_eq_none_iff.mp asked, rfl, rfl⟩
  · next name registry asked =>
    obtain ⟨outcome, rfl⟩ := Prod.mk.inj found
    obtain ⟨rfl, valid⟩ := Term.variable_eq_ok outcome
    exact .inr ⟨name, registry, _, asked, rfl, valid, rfl⟩

def spelling (n : Naming) (t : Term) : Except Violation Term :=
  match t.role with
  | .itself => .ok t
  | .pinned name | .named name => Term.variable name
  | .hole => Term.variable "_"
  | .resource key => Term.variable ("_" ++ (n.registry.lookup key).getD "")

theorem spelling_congr (same : n'.registry = n.registry) (t : Term) : n'.spelling t = n.spelling t := by
  rw [spelling, same]
  rfl

theorem resolve_alone (n : Naming) (node : Node) (record : Bool) :
    (n.resolve node none record).1 = n.spelling node.term := by
  unfold resolve asked? spelling
  cases node.term.role with
  | resource key => simp only [Option.map_none, Registry.nameFor_none, Except.map]
  | _ => rfl

theorem registry_resolve_alone (n : Naming) (node : Node) (record : Bool) :
    (n.resolve node none record).2.registry = n.registry := by
  unfold resolve
  split
  · rfl
  · rfl
  · next asked => rw [capture_registry, asked?_alone asked]

end Naming

end TemplateQuery
