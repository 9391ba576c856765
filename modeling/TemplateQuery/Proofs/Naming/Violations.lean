import TemplateQuery.Proofs.Naming.Distinct
import TemplateQuery.Proofs.Token.Ending

/-! Which nodes of a template are refused. A name that the template gives is taken as it stands, and must be one that a
variable can have. A name that is made holds only characters of variables, unless the label it is made from takes over
the name of a reference. Main statement: `resolve_refuses_iff`. -/

set_option autoImplicit false

namespace TemplateQuery

open Token

/-! ## Characters of made names -/

namespace Token

theorem isVarName_underscore (cs : List Char) : isVarName ('_' :: cs) = cs.all isVarChar := by
  rw [isVarName, show isVarStart '_' = true from by decide, Bool.true_and]

theorem isVarChar_of_isDigit {c : Char} (digit : c.isDigit = true) : isVarChar c = true := by
  simp [isVarChar, digit]

end Token

theorem Label.isVarChar_varChar (c : Char) : isVarChar (varChar c) = true := by
  unfold varChar
  split
  · assumption
  · decide

theorem Label.all_ofPredicate (predicate : Term) (inverse : Bool) :
    (ofPredicate predicate inverse).toList.all isVarChar = true := by
  have plain : ∀ c ∈ stem predicate, isVarChar c = true := by
    intro c member
    obtain ⟨d, -, rfl⟩ := List.mem_map.mp member
    exact isVarChar_varChar d
  rw [ofPredicate, String.toList_ofList, List.all_eq_true]
  split
  · intro c member
    unfold invert at member
    split at member
    · exact plain c (List.mem_of_mem_take member)
    · rcases List.mem_append.mp member with inside | added
      · exact plain c inside
      · exact List.all_eq_true.mp (show "Of".toList.all isVarChar = true by decide) c added
  · exact plain

theorem Registry.all_nth (label : String) (n : Nat) :
    (nth label n).toList.all isVarChar = label.toList.all isVarChar := by
  have digits : (mark n).all isVarChar = true := by
    rw [List.all_eq_true]
    intro c member
    unfold mark at member
    split at member
    · cases member
    · exact isVarChar_of_isDigit (Number.isDigit_of_mem_natText member)
  rw [toList_nth, List.all_append, digits, Bool.and_true]

/-! ## Names that a template gives -/

theorem markedName?_eq_some_iff {text name : String} : markedName? text = some name ↔ text = "?" ++ name := by
  rw [← String.toList_inj, String.toList_append]
  unfold markedName?
  split
  · next front same => simp [same, ← String.toList_inj, eq_comm]
  · next other =>
    refine iff_of_false (by simp) fun same => ?_
    exact other name.toList (by simpa using same)

theorem referenceName?_eq_some_iff {relative name : String} :
    referenceName? relative = some name ↔ relative = "?" ++ name ∧ name ≠ "this" := by
  unfold referenceName?
  split
  · next page =>
    refine iff_of_false (by simp) fun ⟨same, other⟩ => other ?_
    rw [page, ← String.toList_inj, String.toList_append] at same
    have tail : "this".toList = name.toList := List.append_cancel_left (show "?".toList ++ "this".toList = _ from same)
    exact (String.toList_inj.mp tail).symm
  · next other =>
    rw [markedName?_eq_some_iff]
    refine ⟨fun same => ⟨same, ?_⟩, And.left⟩
    rintro rfl
    exact other (by rw [same]; decide)

theorem Term.role_of_filled {lexical : String} (filled : ∃ c ∈ lexical.toList, Text.isBlank c = false) (tag : Tag) :
    (Term.literal lexical tag).role = (markedName? lexical).elim .itself .pinned := by
  obtain ⟨c, inside, other⟩ := filled
  rw [Term.role, if_neg]
  intro all
  rw [List.all_eq_true.mp all c inside] at other
  cases other

def Term.RefersTo (t : Term) (name : String) : Prop := name ≠ "this" ∧ ∃ resolved, t = .reference ("?" ++ name) resolved

theorem Term.refersTo_reference {relative resolved name : String} :
    (Term.reference relative resolved).RefersTo name ↔ referenceName? relative = some name := by
  rw [referenceName?_eq_some_iff]
  simp [RefersTo, and_comm]

def Triple.opposite (t : Triple) (node : Node) : Term :=
  if node.term.same t.subject.term then t.object.term else t.subject.term

namespace Naming

variable {n n' : Naming} {node : Node} {triple? : Option Triple} {record : Bool}

/-- The states that a compilation without violations goes through. -/
inductive Reached : Naming → Prop
  | start : Reached {}
  | resolve {n n' : Naming} {node : Node} {triple? : Option Triple} {record : Bool} {t : Term} (before : Reached n)
      (ran : n.resolve node triple? record = (.ok t, n')) : Reached n'

theorem Reached.sound (reached : Reached n) : n.Sound := by
  induction reached with
  | start => simp [Sound, Registry.lookup]
  | resolve _ ran ih => exact ih.resolve ran

theorem Reached.all_requests (reached : Reached n) :
    ∀ label ∈ n.registry.requests, label.toList.all isVarChar = true := by
  induction reached with
  | start => simp
  | @resolve n n' node triple? record t _ ran ih =>
    have made : ∀ {label given : String} {r : Registry}, isVarName ("_" ++ given).toList = true →
        n.registry.fresh label = .ok (given, r) → ∀ label ∈ r.requests, label.toList.all isVarChar = true := by
      intro label given r valid made other member
      obtain ⟨-, rfl, rfl⟩ := Registry.fresh_ok made
      rcases List.mem_cons.mp member with rfl | before
      · rwa [String.toList_append, show "_".toList = ['_'] from rfl, List.singleton_append, isVarName_underscore,
          Registry.all_nth] at valid
      · exact ih other before
    rcases resolve_ok ran with ⟨-, -, rfl⟩ | ⟨name, registry, wanted, asked, -, valid, rfl⟩
    · exact ih
    · rw [capture_registry]
      rcases asked?_cases asked with rfl | ⟨u, given, -, fresh, rfl⟩ | ⟨key, name?, named, rfl⟩
      · exact ih
      · exact made valid fresh
      · rcases Registry.nameFor_ok named with ⟨rfl, -, -⟩ | ⟨label, given, r, -, -, fresh, rfl, rfl⟩
        · exact ih
        · exact fun label => made (r := r) valid fresh label

def Unnamed (n : Naming) : Term → Prop
  | .literal lexical _ => ∀ c ∈ lexical.toList, Text.isBlank c = true
  | .blank label => n.registry.lookup (Term.blank label).key = none
  | _ => False

/-- What a template may not ask for. -/
inductive Refused (n : Naming) (node : Node) (triple? : Option Triple) : Prop
  /-- A literal that names its variable wrongly. -/
  | pinned {lexical name : String} {tag : Tag} (literal : node.term = .literal lexical tag)
      (filled : ∃ c ∈ lexical.toList, Text.isBlank c = false) (marked : lexical = "?" ++ name)
      (invalid : isVarName name.toList = false)
  /-- A reference that does. -/
  | named {name : String} (reference : node.term.RefersTo name) (invalid : isVarName name.toList = false)
  /-- A node to be named after a reference with a character that no variable has. -/
  | after {t : Triple} {name : String} {c : Char} (unnamed : n.Unnamed node.term) (within : triple? = some t)
      (opposite : (t.opposite node).RefersTo name) (inside : c ∈ name.toList) (invalid : isVarChar c = false)

def askedName (n : Naming) (node : Node) (triple? : Option Triple) : Except Violation (Option String) :=
  (n.asked? node triple?).map (·.map Prod.fst)

theorem resolve_fst (n : Naming) (node : Node) (triple? : Option Triple) (record : Bool) :
    (n.resolve node triple? record).1 =
      (n.askedName node triple?).bind fun name? => name?.elim (.ok node.term) Term.variable := by
  unfold resolve askedName
  split
  · next asked => rw [asked]; rfl
  · next asked => rw [asked]; rfl
  · next asked => rw [asked]; rfl

theorem resolve_cases {t : Term} (found : (n.resolve node triple? record).1 = .ok t) :
    t = node.term ∨ ∃ name, t = .var name ∧ isVarName name.toList = true := by
  rcases resolve_ok (Prod.ext found rfl) with ⟨-, same, -⟩ | ⟨name, _, _, -, same, valid, -⟩
  · exact .inl same
  · exact .inr ⟨name, same, valid⟩

theorem label_eq (n : Naming) (node : Node) (t : Triple) :
    n.label node t =
      match t.opposite node with
      | .iri _ | .curie _ _ _ => Label.ofPredicate t.predicate.term t.inverse
      | .reference relative _ =>
        (referenceName? relative).elim (Label.ofPredicate t.predicate.term t.inverse)
          (· ++ "_" ++ Label.ofPredicate t.predicate.term t.inverse)
      | other => (n.registry.lookup other.key).getD "" ++ "_" ++ Label.ofPredicate t.predicate.term t.inverse := rfl

theorem exhausted_of_askedName {v : Violation} (asked : n.askedName node triple? = .error v) :
    ∃ label, v = .exhausted label ∧ UInt32.size ≤ n.registry.requests.count label := by
  have ofFresh : ∀ {label : String}, n.registry.fresh label = .error v →
      ∃ label, v = .exhausted label ∧ UInt32.size ≤ n.registry.requests.count label := by
    intro label failed
    rcases Nat.lt_or_ge (n.registry.requests.count label) UInt32.size with few | many
    · rw [Registry.fresh_of_lt few] at failed
      cases failed
    · rw [Registry.fresh_of_le many] at failed
      cases failed
      exact ⟨label, rfl, many⟩
  unfold askedName asked? at asked
  cases role : node.term.role with
  | itself | pinned _ | named _ => simp only [role] at asked; cases asked
  | hole =>
    cases triple? with
    | none => simp only [role, Option.map_none] at asked; cases asked
    | some u =>
      simp only [role, Option.map_some] at asked
      cases made : n.registry.fresh (n.label node u) with
      | error w => rw [made] at asked; cases asked; exact ofFresh made
      | ok answer => rw [made] at asked; cases asked
  | resource key =>
    simp only [role] at asked
    cases named : n.registry.nameFor key (triple?.map (n.label node)) with
    | ok answer => rw [named] at asked; cases asked
    | error w =>
      rw [named] at asked
      cases asked
      cases known : n.registry.lookup key with
      | some name => rw [Registry.nameFor_of_lookup known] at named; cases named
      | none =>
        cases triple? with
        | none => rw [Option.map_none, Registry.nameFor_none] at named; cases named
        | some u =>
          rw [Option.map_some, Registry.nameFor_of_unknown known] at named
          cases made : n.registry.fresh (n.label node u) with
          | ok answer => rw [made] at named; cases named
          | error w => rw [made] at named; cases named; exact ofFresh made

theorem resolve_eq_invalid_iff :
    (∃ name, (n.resolve node triple? record).1 = .error (.invalid name)) ↔
      ∃ name, n.askedName node triple? = .ok (some name) ∧ isVarName name.toList = false := by
  rw [resolve_fst]
  cases asked : n.askedName node triple? with
  | error v =>
    obtain ⟨label, rfl, -⟩ := exhausted_of_askedName asked
    simp [Except.bind]
  | ok name? =>
    cases name? with
    | none => simp [Except.bind]
    | some name =>
      simp only [Except.bind, Option.elim_some, Term.variable, Except.ok.injEq, Option.some.injEq]
      split
      · next valid => simp [valid]
      · next invalid => simpa using invalid

/-- A label holds characters of variables, but for those of a reference across from the node. -/
theorem Sound.all_label_iff (sound : n.Sound) (t : Triple) :
    (n.label node t).toList.all isVarChar = true ↔
      ∀ name, (t.opposite node).RefersTo name → name.toList.all isVarChar = true := by
  have stem := Label.all_ofPredicate t.predicate.term t.inverse
  have joined : ∀ front : String, (front ++ "_" ++ Label.ofPredicate t.predicate.term t.inverse).toList.all isVarChar =
      front.toList.all isVarChar := by
    intro front
    rw [String.toList_append, String.toList_append, List.all_append, List.all_append, stem,
      show "_".toList.all isVarChar = true by decide, Bool.and_true, Bool.and_true]
  -- What a resource was named before, if anything, is made of the right characters.
  have known : ∀ key : String, ((n.registry.lookup key).getD "").toList.all isVarChar = true := by
    intro key
    cases found : n.registry.lookup key with
    | none => rfl
    | some name =>
      have valid := sound key name found
      rwa [String.toList_append, show "_".toList = ['_'] from rfl, List.singleton_append, isVarName_underscore] at valid
  rw [label_eq]
  cases across : t.opposite node with
  | iri i | curie label localPart i => simp [stem, Term.RefersTo]
  | var name | blank label | literal lexical tag =>
    refine iff_of_true ?_ (by simp [Term.RefersTo])
    simp only [joined, known]
  | reference relative resolved =>
    simp only [Term.refersTo_reference]
    cases referenceName? relative with
    | none => simp [stem]
    | some name => simp only [Option.elim_some, joined, Option.some.injEq, forall_eq']

theorem tokenize_marked {name : String} (valid : isVarName name.toList = true) :
    ∃ tokens, tokenize ("?" ++ name) = .ok tokens ∧ tokens.map Token.kind = [.var name, .eof] := by
  have found : scanOne? ('?' :: name.toList ++ []) = some (.var (String.ofList name.toList), []) :=
    scanOne?_var (.inr rfl) valid (by simp [Stop])
  rw [List.append_nil, String.ofList_toList] at found
  rw [exists_tokenize_iff, String.toList_append]
  exact .cons (by decide) found (.done rfl)

theorem isVarName_made_iff (sound : n.Sound) (t : Triple) (k : Nat) :
    isVarName ("_" ++ Registry.nth (n.label node t) k).toList = false ↔
      ∃ name, (t.opposite node).RefersTo name ∧ ∃ c ∈ name.toList, isVarChar c = false := by
  rw [String.toList_append, show "_".toList = ['_'] from rfl, List.singleton_append, isVarName_underscore,
    Registry.all_nth, ← Bool.not_eq_true, sound.all_label_iff]
  simp

theorem askedName_of_unnamed (unnamed : n.Unnamed node.term) :
    n.askedName node triple? = triple?.elim (.ok (some "_")) fun t =>
      (n.registry.fresh (n.label node t)).map fun made => some ("_" ++ made.1) := by
  unfold askedName asked?
  cases term : node.term with
  | var _ | iri _ | curie _ _ _ | reference _ _ =>
    rw [term] at unnamed
    exact absurd unnamed id
  | literal lexical tag =>
    rw [term] at unnamed
    simp only [Term.role, if_pos (List.all_eq_true.mpr unnamed)]
    cases triple? with
    | none => rfl
    | some t => cases made : n.registry.fresh (n.label node t) <;> simp [made, Except.map]
  | blank label =>
    rw [term] at unnamed
    simp only [Term.role]
    cases triple? with
    | none =>
      rw [Option.map_none, Registry.nameFor_none, show n.registry.lookup (Term.blank label).key = none from unnamed]
      rfl
    | some t =>
      rw [Option.map_some, Registry.nameFor_of_unknown unnamed]
      cases made : n.registry.fresh (n.label node t) <;> simp [made, Except.map]

theorem Sound.refused_of_unnamed (sound : n.Sound) {name : String} (unnamed : n.Unnamed node.term)
    (asked : n.askedName node triple? = .ok (some name)) (invalid : isVarName name.toList = false) :
    n.Refused node triple? := by
  rw [askedName_of_unnamed unnamed] at asked
  cases triple? with
  | none =>
    cases asked
    exact absurd (show isVarName "_".toList = false from invalid) (by decide)
  | some t =>
    rw [Option.elim_some] at asked
    cases made : n.registry.fresh (n.label node t) with
    | error v => rw [made] at asked; cases asked
    | ok answer =>
      obtain ⟨given, r⟩ := answer
      obtain ⟨-, rfl, -⟩ := Registry.fresh_ok made
      rw [made] at asked
      cases asked
      obtain ⟨reference, refers, c, inside, wrong⟩ := (isVarName_made_iff sound t _).mp invalid
      exact .after unnamed rfl refers inside wrong

theorem Sound.refused_of_asked (sound : n.Sound) {name : String} (asked : n.askedName node triple? = .ok (some name))
    (invalid : isVarName name.toList = false) : n.Refused node triple? := by
  -- By what the node is; a blank node that has a name already cannot be refused, as that name was accepted.
  cases term : node.term with
  | var _ | iri _ | curie _ _ _ => simp [askedName, asked?, term, Term.role, Except.map] at asked
  | reference relative resolved =>
    have named : referenceName? relative = some name := by
      cases marked : referenceName? relative with
      | none => simp [askedName, asked?, term, Term.role, marked, Except.map] at asked
      | some other => simpa [askedName, asked?, term, Term.role, marked, Except.map] using asked
    exact .named (term ▸ Term.refersTo_reference.mpr named) invalid
  | literal lexical tag =>
    by_cases hole : ∀ c ∈ lexical.toList, Text.isBlank c = true
    · exact sound.refused_of_unnamed (by rw [term]; exact hole) asked invalid
    · have filled : ∃ c ∈ lexical.toList, Text.isBlank c = false := by simpa using hole
      rw [askedName, asked?, term, Term.role_of_filled filled] at asked
      have pinned : markedName? lexical = some name := by
        cases marked : markedName? lexical with
        | none => simp [marked, Except.map] at asked
        | some other => simpa [marked, Except.map] using asked
      exact .pinned term filled (markedName?_eq_some_iff.mp pinned) invalid
  | blank label =>
    cases known : n.registry.lookup (Term.blank label).key with
    | none => exact sound.refused_of_unnamed (by rw [term]; exact known) asked invalid
    | some given =>
      have same : "_" ++ given = name := by
        simpa [askedName, asked?, term, Term.role, Registry.nameFor_of_lookup known, Except.map] using asked
      rw [← same, sound _ given known] at invalid
      cases invalid

theorem Refused.asked (refused : n.Refused node triple?) (reached : Reached n) :
    ∃ name, n.askedName node triple? = .ok (some name) ∧ isVarName name.toList = false := by
  cases refused with
  | @pinned lexical name tag literal filled marked invalid =>
    have role : node.term.role = .pinned name := by
      rw [literal, Term.role_of_filled filled, markedName?_eq_some_iff.mpr marked]
      rfl
    exact ⟨name, by rw [askedName, asked?, role]; rfl, invalid⟩
  | @named name reference invalid =>
    obtain ⟨other, resolved, term⟩ := reference
    have role : node.term.role = .named name := by
      rw [term, Term.role, referenceName?_eq_some_iff.mpr ⟨rfl, other⟩]
      rfl
    exact ⟨name, by rw [askedName, asked?, role]; rfl, invalid⟩
  | @after t name c unnamed within opposite inside invalid =>
    subst within
    have wrong : isVarName ("_" ++ Registry.nth (n.label node t) 0).toList = false :=
      (isVarName_made_iff reached.sound t 0).mpr ⟨name, opposite, c, inside, invalid⟩
    -- No name was made from such a label before, so this request can be counted.
    have unasked : n.registry.requests.count (n.label node t) = 0 := by
      refine List.count_eq_zero_of_not_mem fun member => ?_
      have plain := reached.all_requests _ member
      rw [String.toList_append, show "_".toList = ['_'] from rfl, List.singleton_append, isVarName_underscore,
        Registry.all_nth, plain] at wrong
      cases wrong
    refine ⟨_, ?_, wrong⟩
    rw [askedName_of_unnamed unnamed, Option.elim_some, Registry.fresh_of_lt (by rw [unasked]; decide), unasked]
    rfl

/-- Among the states without violations a node is refused just when the template gives a name, or the label of the node
takes one over, that no variable can have. Apart from that it has a term, unless its label was asked for too often, and
what becomes a variable is read as one token. -/
theorem resolve_refuses_iff (reached : Reached n) (node : Node) (triple? : Option Triple) (record : Bool) :
    ((∃ name, (n.resolve node triple? record).1 = .error (.invalid name)) ↔ n.Refused node triple?) ∧
    (∀ label, (n.resolve node triple? record).1 = .error (.exhausted label) →
      UInt32.size ≤ n.registry.requests.count label) ∧
    ∀ name, (n.resolve node triple? record).1 = .ok (.var name) → node.term.isVar = false →
      ∃ tokens, tokenize ("?" ++ name) = .ok tokens ∧ tokens.map Token.kind = [.var name, .eof] := by
  have sound := reached.sound
  refine ⟨?_, ?_, ?_⟩
  · rw [resolve_eq_invalid_iff]
    constructor
    · rintro ⟨name, asked, invalid⟩
      exact sound.refused_of_asked asked invalid
    · exact fun refused => refused.asked reached
  · intro label failed
    rw [resolve_fst] at failed
    cases asked : n.askedName node triple? with
    | error v =>
      obtain ⟨other, rfl, many⟩ := exhausted_of_askedName asked
      rw [asked] at failed
      cases failed
      exact many
    | ok name? =>
      rw [asked] at failed
      cases name? with
      | none => cases failed
      | some name =>
        change Term.variable name = _ at failed
        unfold Term.variable at failed
        split at failed <;> cases failed
  · intro name found other
    rcases resolve_cases found with own | ⟨given, same, valid⟩
    · rw [← own] at other
      cases other
    · cases same
      exact tokenize_marked valid

/-- A blank node is named after the way to it, and a hole of the blank node after both. Across from a reference with a
hyphen the same hole is refused. -/
theorem resolve_refuses_iff_friend :
    let page (relative : String) : Node := { term := .reference relative "p:page" }
    let friend : Node := { term := .blank "b" }
    let hole : Node := { term := .plain " " }
    let property (s : Node) (predicate : String) (o : Node) : Triple := ⟨s, { term := .iri predicate }, o, false⟩
    let n := (({} : Naming).resolve friend (some (property (page "?this") "p:hasFriend" friend)) true).2
    Reached n ∧
      (∃ v, (n.resolve hole (some (property (page "?a-b") "p:name" hole)) true).1 = .error (.invalid v)) ∧
      (n.resolve hole (some (property friend "p:name" hole)) true).1 = .ok (.var "_friend_name") ∧
      ∃ tokens, tokenize "?_friend_name" = .ok tokens ∧ tokens.map Token.kind = [.var "_friend_name", .eof] := by
  intro page friend hole property n
  have reached : Reached n := by
    apply Reached.resolve .start
    exact Prod.ext (show _ = Except.ok (.var "_friend") by decide +kernel) rfl
  have made : (n.resolve hole (some (property friend "p:name" hole)) true).1 = .ok (.var "_friend_name") := by
    decide +kernel
  refine ⟨reached, ?_, made, ?_⟩
  · apply (resolve_refuses_iff reached hole (some (property (page "?a-b") "p:name" hole)) true).1.mpr
    have blank : n.Unnamed hole.term := List.all_eq_true.mp (show " ".toList.all Text.isBlank = true by decide)
    exact .after blank rfl ⟨by decide, "p:page", rfl⟩ (show '-' ∈ "a-b".toList by decide) (by decide)
  · exact (resolve_refuses_iff reached hole _ true).2.2 "_friend_name" made rfl

end Naming

end TemplateQuery
