import TemplateQuery.Proofs.Eval.Labels
import TemplateQuery.Proofs.Eval.Rounded

/-! Membership in a list is the disjunction of the equations with its items, in its failures too. The one goes through
the items and remembers a failure, the other joins outcomes two by two. Where an equation has no outcome the disjunction
has none either, but membership may be decided before it. -/

set_option autoImplicit false

namespace TemplateQuery

open Eval

/-! ## Evaluations that draw nothing -/

namespace Eval

variable {α β : Type}

theorem ofOutcome_ok_bind (a : α) (k : α → Eval β) : (ofOutcome (some (.ok a)) >>= k) = k a :=
  funext fun _ => bind_of_ok rfl k

theorem ofOutcome_error_bind (e : EvalError) (k : α → Eval β) :
    (ofOutcome (some (.error e)) >>= k) = ofOutcome (some (.error e)) := funext fun _ => bind_of_error rfl k

theorem ofOutcome_none_bind (k : α → Eval β) : (ofOutcome none >>= k) = ofOutcome none :=
  funext fun _ => bind_of_none rfl k

theorem attempt_ofOutcome (o : Outcome α) : attempt (ofOutcome o) = ofOutcome (o.map .ok) := by
  cases o <;> rfl

theorem exists_ofExcept_eq (x : Except TypeFault α) : ∃ o, ofExcept x = ofOutcome o := by
  cases x with
  | ok a => exact ⟨some (.ok a), rfl⟩
  | error fault => exact ⟨some (.error (.type fault)), rfl⟩

end Eval

theorem Expression.exists_eval_eq (c : Context) {e : Expression} (still : e.draws = false) :
    ∃ o, e.eval c = ofOutcome o := by
  refine ⟨(e.eval c {}).map Prod.fst, funext fun draws => ?_⟩
  -- Side by side with a run from the first state, each run keeps the state it started in.
  have sides : Parallel (fun first second => first = draws ∧ second = {}) (e.evalBy labelFor c) (e.evalBy labelFor c) :=
    Expression.evalBy_parallel c e fun drawn => absurd (still.symm.trans drawn) (by decide)
  rw [Expression.evalBy_labelFor] at sides
  have same := sides draws {} ⟨rfl, rfl⟩
  unfold ofOutcome
  generalize e.eval c draws = here at same ⊢
  generalize e.eval c {} = there at same ⊢
  cases same with
  | none => rfl
  | @some p q same => exact congrArg some (Prod.ext same.1 same.2.1)

/-! ## Tests -/

/-- Whether one of several tests holds, some of which may fail: one that holds decides, and then one that fails. -/
def anyHolds (tests : List (Option Bool)) : Option Bool :=
  if some true ∈ tests then some true else if none ∈ tests then none else some false

def mark : Option EvalError → Option Bool
  | none => some false
  | some _ => none

theorem anyHolds_single (v : Option Bool) : anyHolds [v] = v := by
  rcases v with _ | _ | _ <;> rfl

theorem anyHolds_pair (v w : Option Bool) (tests : List (Option Bool)) :
    anyHolds (anyHolds [v, w] :: tests) = anyHolds (v :: w :: tests) := by
  rcases v with _ | _ | _ <;> rcases w with _ | _ | _ <;> simp [anyHolds]

theorem anyHolds_false (v : Option Bool) (tests : List (Option Bool)) :
    anyHolds (v :: some false :: tests) = anyHolds (v :: tests) := by
  rcases v with _ | _ | _ <;> simp [anyHolds]

theorem anyHolds_none (failure : Option EvalError) (tests : List (Option Bool)) :
    anyHolds (mark failure :: none :: tests) = anyHolds (none :: tests) := by
  cases failure <;> simp [anyHolds, mark]

/-- What a test comes to: a truth value, a failure, or nothing at all. -/
abbrev Verdict := Option (Option Bool)

namespace Verdict

def together (tests : List Verdict) : Verdict :=
  if none ∈ tests then none else some (anyHolds (tests.filterMap id))

def upToFirst : List Verdict → List Verdict
  | [] => []
  | v :: rest => if v = some (some true) then [v] else v :: upToFirst rest

theorem together_eq_none_iff {tests : List Verdict} : together tests = none ↔ none ∈ tests := by
  simp [together]

theorem together_single (v : Verdict) : together [v] = v := by
  cases v with
  | none => rfl
  | some v => simp [together, anyHolds_single]

theorem together_pair (v w : Verdict) (tests : List Verdict) :
    together (together [v, w] :: tests) = together (v :: w :: tests) := by
  cases v with
  | none => simp [together]
  | some v =>
    cases w with
    | none => simp [together]
    | some w => simp [together, anyHolds_pair]

theorem together_false (v : Verdict) (tests : List Verdict) :
    together (v :: some (some false) :: tests) = together (v :: tests) := by
  cases v with
  | none => simp [together]
  | some v => simp [together, anyHolds_false]

theorem together_mark (failure : Option EvalError) (tests : List Verdict) :
    together (some (mark failure) :: some none :: tests) = together (some none :: tests) := by
  simp [together, anyHolds_none]

theorem together_unmarked (tests : List Verdict) : together (some (mark none) :: tests) = together tests := by
  simp [together, anyHolds, mark]

theorem together_of_holds {tests : List Verdict} (holds : some (some true) ∈ tests) (all : none ∉ tests) :
    together tests = some (some true) := by
  have among : some true ∈ tests.filterMap id := List.mem_filterMap.mpr ⟨_, holds, rfl⟩
  rw [together, if_neg all, anyHolds, if_pos among]

theorem mem_upToFirst_of_mem {tests : List Verdict} (holds : some (some true) ∈ tests) :
    some (some true) ∈ upToFirst tests := by
  induction tests with
  | nil => cases holds
  | cons v rest ih =>
    unfold upToFirst
    split
    · next same => simp [same]
    · next other =>
      refine List.mem_cons_of_mem v (ih ?_)
      exact (List.mem_cons.mp holds).resolve_left fun same => other same.symm

theorem upToFirst_of_not_mem {tests : List Verdict} (absent : some (some true) ∉ tests) : upToFirst tests = tests := by
  induction tests with
  | nil => rfl
  | cons v rest ih =>
    rw [List.mem_cons, not_or] at absent
    rw [upToFirst, if_neg (Ne.symm absent.1), ih absent.2]

theorem upToFirst_sublist (tests : List Verdict) : (upToFirst tests).Sublist tests := by
  induction tests with
  | nil => exact .slnil
  | cons v rest ih =>
    unfold upToFirst
    split
    · exact List.cons_sublist_cons.mpr (List.nil_sublist rest)
    · exact List.cons_sublist_cons.mpr ih

/-- The tests behind the first that holds do not count, if all of them come to something. -/
theorem together_upToFirst {tests : List Verdict} (all : none ∉ tests) :
    together (upToFirst tests) = together tests := by
  by_cases holds : some (some true) ∈ tests
  · have fewer : none ∉ upToFirst tests := fun member => all ((upToFirst_sublist tests).mem member)
    rw [together_of_holds (mem_upToFirst_of_mem holds) fewer, together_of_holds holds all]
  · rw [upToFirst_of_not_mem holds]

end Verdict

open Verdict

namespace Eval

/-- An evaluation that draws nothing and comes to a verdict. -/
def ComesTo (x : Eval Value) : Verdict → Prop
  | some (some b) => x = ofOutcome (some (.ok (.bool b)))
  | some none => ∃ e, x = ofOutcome (some (.error e))
  | none => x = ofOutcome none

def verdict (o : Outcome Bool) : Verdict := o.map Except.toOption

@[simp] theorem verdict_none : verdict none = none := rfl

@[simp] theorem verdict_ok (b : Bool) : verdict (some (.ok b)) = some (some b) := rfl

@[simp] theorem verdict_error (e : EvalError) : verdict (some (.error e)) = some none := rfl

theorem comesTo_verdict (o : Outcome Bool) : ComesTo (ofOutcome o >>= fun b => pure (.bool b)) (verdict o) := by
  rcases o with _ | e | b
  · exact ofOutcome_none_bind _
  · exact ⟨e, ofOutcome_error_bind e _⟩
  · exact ofOutcome_ok_bind b _

section Comes

variable {x y : Eval Value} {v w : Verdict}

theorem ComesTo.truth (comes : ComesTo x v) : ∃ o, (x >>= Eval.truth) = ofOutcome o ∧ verdict o = v := by
  rcases v with _ | _ | b
  · obtain rfl := comes
    exact ⟨none, ofOutcome_none_bind _, rfl⟩
  · obtain ⟨e, rfl⟩ := comes
    exact ⟨some (.error e), ofOutcome_error_bind e _, rfl⟩
  · obtain rfl := comes
    exact ⟨some (.ok b), ofOutcome_ok_bind _ _, rfl⟩

theorem logical_toOption (l r : Except EvalError Bool) :
    (logical true l r).toOption = anyHolds [l.toOption, r.toOption] := by
  rcases l with _ | _ | _ <;> rcases r with _ | _ | _ <;> rfl

theorem ComesTo.or (left : ComesTo x v) (right : ComesTo y w) : ComesTo (binary .or x y) (together [v, w]) := by
  obtain ⟨l, first, rfl⟩ := left.truth
  obtain ⟨r, second, rfl⟩ := right.truth
  show ComesTo (both true x y) _
  unfold both
  rw [first, second, attempt_ofOutcome, attempt_ofOutcome]
  cases l with
  | none => exact ofOutcome_none_bind _
  | some l =>
    rw [Option.map_some, ofOutcome_ok_bind]
    cases r with
    | none => exact ofOutcome_none_bind _
    | some r =>
      rw [Option.map_some, ofOutcome_ok_bind]
      have joined : together [verdict (some l), verdict (some r)] = some (logical true l r).toOption := by
        simp [together, verdict, logical_toOption]
      rw [joined]
      cases logical true l r with
      | ok b => rfl
      | error e => exact ⟨e, rfl⟩

variable (draws : Draws)

theorem ComesTo.ok_iff (comes : ComesTo x v) (b : Bool) :
    (x draws).map Prod.fst = some (.ok (.bool b)) ↔ v = some (some b) := by
  rcases v with _ | _ | b'
  · obtain rfl := comes
    simp [ofOutcome]
  · obtain ⟨e, rfl⟩ := comes
    simp [ofOutcome]
  · obtain rfl := comes
    simp [ofOutcome]

theorem ComesTo.none_iff (comes : ComesTo x v) : (x draws).map Prod.fst = none ↔ v = none := by
  rcases v with _ | _ | b'
  · obtain rfl := comes
    simp [ofOutcome]
  · obtain ⟨e, rfl⟩ := comes
    simp [ofOutcome]
  · obtain rfl := comes
    simp [ofOutcome]

theorem ComesTo.agree (first : ComesTo x v) (second : ComesTo y v) :
    Option.Rel (Agree fun v w => ∃ b, v = .bool b ∧ w = .bool b) ((x draws).map Prod.fst)
      ((y draws).map Prod.fst) := by
  rcases v with _ | _ | b
  · obtain rfl := first
    obtain rfl := second
    exact .none
  · obtain ⟨e, rfl⟩ := first
    obtain ⟨e', rfl⟩ := second
    exact .some trivial
  · obtain rfl := first
    obtain rfl := second
    exact .some ⟨b, rfl, rfl⟩

end Comes

def asked (needle : Value) (item : Eval Value) : Eval Bool := item >>= fun v => ofExcept (needle.equal v)

theorem exists_asked_eq (needle : Value) (o : Outcome Value) :
    ∃ answer, asked needle (ofOutcome o) = ofOutcome answer := by
  rcases o with _ | e | v
  · exact ⟨none, ofOutcome_none_bind _⟩
  · exact ⟨some (.error e), ofOutcome_error_bind e _⟩
  · obtain ⟨answer, same⟩ := exists_ofExcept_eq (needle.equal v)
    exact ⟨answer, (ofOutcome_ok_bind v _).trans same⟩

theorem comesTo_equation {item : Eval Value} {needle : Value} {answer : Outcome Bool}
    (same : asked needle item = ofOutcome answer) :
    ComesTo (binary (.compare .eq) (ofOutcome (some (.ok needle))) item) (verdict answer) := by
  have asks : binary (.compare .eq) (ofOutcome (some (.ok needle))) item =
      (asked needle item >>= fun b => pure (.bool b)) := by
    refine (ofOutcome_ok_bind needle _).trans ?_
    rw [asked, bind_assoc]
    rfl
  rw [asks, same]
  exact comesTo_verdict answer

theorem member_cons (needle : Value) (negated : Bool) (failure : Option EvalError) (item : Eval Value)
    (items : List (Eval Value)) :
    member needle negated failure (item :: items) =
      (attempt (asked needle item) >>= fun
        | .ok true => pure (.bool !negated)
        | .ok false => member needle negated failure items
        | .error e => member needle negated (some e) items) := rfl

/-- Going through the items comes to what the answers say up to the first that holds, together with a failure
remembered before. -/
theorem comesTo_member (needle : Value) (negated : Bool) {items : List (Eval Value)} {answers : List (Outcome Bool)}
    (each : List.Forall₂ (fun item answer => asked needle item = ofOutcome answer) items answers)
    (failure : Option EvalError) :
    ComesTo (member needle negated failure items)
      ((together (some (mark failure) :: upToFirst (answers.map verdict))).map (Option.map (· ^^ negated))) := by
  induction each generalizing failure with
  | nil =>
    rw [List.map_nil, upToFirst, together_single]
    cases failure with
    | none => cases negated <;> rfl
    | some e => exact ⟨e, rfl⟩
  | @cons item answer items answers same _ ih =>
    rw [member_cons, same, attempt_ofOutcome, List.map_cons]
    rcases answer with _ | e | _ | _
    · rw [verdict_none, upToFirst, if_neg (by simp), together_eq_none_iff.mpr (by simp)]
      exact ofOutcome_none_bind _
    · rw [verdict_error, upToFirst, if_neg (by simp), together_mark, Option.map_some, ofOutcome_ok_bind]
      exact ih (some e)
    · rw [verdict_ok, upToFirst, if_neg (by simp), together_false, Option.map_some, ofOutcome_ok_bind]
      exact ih failure
    · rw [verdict_ok, upToFirst, if_pos rfl, together_of_holds (by simp) (by simp), Option.map_some, ofOutcome_ok_bind]
      cases negated <;> rfl

end Eval

/-! ## Lists -/

namespace Expression

variable {c : Context} {x : Expression}

def equation (x y : Expression) : Expression := .binary (.compare .eq) x y

/-- The disjunction of the equations with the items of a list that is not empty, as it is read. -/
def disjunction (x y : Expression) (ys : List Expression) : Expression :=
  ys.foldl (fun e z => .binary .or e (equation x z)) (equation x y)

abbrev Equations (c : Context) (x : Expression) (items : List Expression) (tests : List Verdict) : Prop :=
  List.Forall₂ (fun z v => ComesTo ((equation x z).eval c) v) items tests

theorem comesTo_foldl {e : Expression} {v : Verdict} (first : ComesTo (e.eval c) v) {ys : List Expression}
    {tests : List Verdict} (each : Equations c x ys tests) :
    ComesTo ((ys.foldl (fun e z => .binary .or e (equation x z)) e).eval c) (together (v :: tests)) := by
  induction each generalizing e v with
  | nil =>
    rw [together_single]
    exact first
  | @cons z w ys tests second _ ih =>
    rw [← together_pair]
    refine ih ?_
    rw [Expression.eval]
    exact first.or second

theorem comesTo_disjunction {y : Expression} {ys : List Expression} {tests : List Verdict}
    (each : Equations c x (y :: ys) tests) : ComesTo ((disjunction x y ys).eval c) (together tests) := by
  cases each with
  | cons first rest => exact comesTo_foldl first rest

theorem evalEach_eq_map (c : Context) (items : List Expression) : evalEach c items = items.map (·.eval c) := by
  induction items with
  | nil => rfl
  | cons z items ih => rw [evalEach, List.map_cons, ih]

theorem exists_answers (c : Context) (needle : Value) {items : List Expression} (each : ∀ z ∈ items, z.draws = false) :
    ∃ answers, List.Forall₂ (fun z answer => asked needle (z.eval c) = ofOutcome answer) items answers := by
  induction items with
  | nil => exact ⟨[], .nil⟩
  | cons z items ih =>
    obtain ⟨still, others⟩ := List.forall_mem_cons.mp each
    obtain ⟨o, same⟩ := exists_eval_eq c still
    obtain ⟨answer, first⟩ := exists_asked_eq needle o
    obtain ⟨answers, rest⟩ := ih others
    exact ⟨answer :: answers, .cons (by rw [same, first]) rest⟩

theorem equations_of_shared {v : Verdict} (valueless : v = none ∨ v = some none)
    (ends : ∀ k : Value → Eval Value, ComesTo (x.eval c >>= k) v) (y : Expression) (ys : List Expression) :
    Equations c x (y :: ys) ((y :: ys).map fun _ => v) ∧ ∀ negated,
      ComesTo ((inList x (y :: ys) negated).eval c)
        ((together (upToFirst ((y :: ys).map fun _ => v))).map (Option.map (· ^^ negated))) := by
  have alike : together (upToFirst ((y :: ys).map fun _ => v)) = v := by
    rcases valueless with rfl | rfl
    · rw [upToFirst_of_not_mem (by simp), together_eq_none_iff]
      simp
    · rw [upToFirst_of_not_mem (by simp)]
      simp [together, anyHolds]
  constructor
  · rw [Equations, List.forall₂_map_right_iff, List.forall₂_same]
    intro z _
    rw [equation, Expression.eval]
    exact ends _
  · intro negated
    have denied : v.map (Option.map (· ^^ negated)) = v := by rcases valueless with rfl | rfl <;> rfl
    rw [alike, denied, Expression.eval]
    exact ends _

theorem exists_equations (c : Context) {x y : Expression} {ys : List Expression} (still : x.draws = false)
    (each : ∀ z ∈ y :: ys, z.draws = false) :
    ∃ tests, Equations c x (y :: ys) tests ∧ ∀ negated,
      ComesTo ((inList x (y :: ys) negated).eval c) ((together (upToFirst tests)).map (Option.map (· ^^ negated))) := by
  obtain ⟨o, found⟩ := exists_eval_eq c still
  rcases o with _ | e | needle
  · exact ⟨_, equations_of_shared (.inl rfl) (fun k => by rw [found]; exact ofOutcome_none_bind k) y ys⟩
  · exact ⟨_, equations_of_shared (.inr rfl) (fun k => by rw [found]; exact ⟨e, ofOutcome_error_bind e k⟩) y ys⟩
  · obtain ⟨answers, asks⟩ := exists_answers c needle each
    refine ⟨answers.map verdict, ?_, fun negated => ?_⟩
    · rw [Equations, List.forall₂_map_right_iff]
      refine asks.imp fun z answer first => ?_
      rw [equation, Expression.eval, found]
      exact comesTo_equation first
    · rw [Expression.eval, evalEach_eq_map, found, ofOutcome_ok_bind, ← together_unmarked]
      exact comesTo_member needle negated (List.forall₂_map_left_iff.mpr asks) none

section Outcomes

variable (draws : Draws)

abbrev outcome (c : Context) (draws : Draws) (e : Expression) : Outcome Value := (e.eval c draws).map Prod.fst

theorem none_mem_iff {items : List Expression} {tests : List Verdict} (each : Equations c x items tests) :
    none ∈ tests ↔ ∃ z ∈ items, outcome c draws (equation x z) = none := by
  induction each with
  | nil => simp
  | @cons z v items tests first _ ih =>
    rw [List.mem_cons, ih, List.exists_mem_cons_iff, outcome, first.none_iff draws, eq_comm]

/-- Membership has no outcome where an equation has none and none before it holds. -/
theorem none_mem_upToFirst_iff {items : List Expression} {tests : List Verdict} (each : Equations c x items tests) :
    none ∈ upToFirst tests ↔ ∃ before z after, items = before ++ z :: after ∧
      outcome c draws (equation x z) = none ∧
      ∀ w ∈ before, outcome c draws (equation x w) ≠ some (.ok (.bool true)) := by
  induction each with
  | nil => simp [upToFirst]
  | @cons z v items tests first _ ih =>
    unfold upToFirst
    by_cases holds : v = some (some true)
    · rw [if_pos holds, List.mem_singleton]
      refine iff_of_false (by simp [holds]) ?_
      rintro ⟨before, z', after, split, ended, others⟩
      have held := (first.ok_iff draws true).mpr holds
      cases before with
      | nil =>
        cases split
        rw [(first.none_iff draws).mp ended] at holds
        cases holds
      | cons w before =>
        cases split
        exact others _ List.mem_cons_self held
    · rw [if_neg holds, List.mem_cons, ih]
      constructor
      · rintro (same | ⟨before, z', after, rfl, ended, others⟩)
        · exact ⟨[], z, items, rfl, (first.none_iff draws).mpr same.symm, by simp⟩
        · refine ⟨z :: before, z', after, rfl, ended, List.forall_mem_cons.mpr ⟨?_, others⟩⟩
          exact (first.ok_iff draws true).not.mpr holds
      · rintro ⟨before, z', after, split, ended, others⟩
        cases before with
        | nil =>
          cases split
          exact .inl ((first.none_iff draws).mp ended).symm
        | cons w before =>
          cases split
          exact .inr ⟨before, z', after, rfl, ended, fun w member => others w (List.mem_cons_of_mem _ member)⟩

theorem holds_mem_of_mem {items : List Expression} {tests : List Verdict} (each : Equations c x items tests)
    {z : Expression} (member : z ∈ items) (holds : outcome c draws (equation x z) = some (.ok (.bool true))) :
    some (some true) ∈ tests := by
  induction each with
  | nil => cases member
  | @cons y v _ _ first _ ih =>
    rcases List.mem_cons.mp member with rfl | later
    · rw [(first.ok_iff draws true).mp holds]
      exact List.mem_cons_self
    · exact List.mem_cons_of_mem v (ih later)

end Outcomes

end Expression

/-- Where the disjunction of the equations with the items of a list has an outcome, membership in the list has the
same, and fails to tell exactly when the disjunction does. The disjunction has none if one of its equations has none;
membership only if none before that holds, so that an equal item decides whatever fails before it. The denial of
membership tells the opposite. -/
theorem Expression.inList_disjunction_while_defined (c : Context) (x y : Expression) (ys : List Expression)
    (still : x.draws = false ∧ ∀ z ∈ y :: ys, z.draws = false) (draws : Draws) :
    let outcome (e : Expression) := (e.eval c draws).map Prod.fst
    (outcome (disjunction x y ys) ≠ none →
      Option.Rel (Agree fun v w => ∃ b, v = .bool b ∧ w = .bool b)
        (outcome (.inList x (y :: ys) false)) (outcome (disjunction x y ys))) ∧
    (outcome (disjunction x y ys) = none ↔ ∃ z ∈ y :: ys, outcome (equation x z) = none) ∧
    (outcome (.inList x (y :: ys) false) = none ↔ ∃ before z after, y :: ys = before ++ z :: after ∧
      outcome (equation x z) = none ∧ ∀ w ∈ before, outcome (equation x w) ≠ some (.ok (.bool true))) ∧
    (∀ b, outcome (.inList x (y :: ys) true) = some (.ok (.bool b)) ↔
      outcome (.inList x (y :: ys) false) = some (.ok (.bool !b))) ∧
    ∀ z ∈ y :: ys, outcome (equation x z) = some (.ok (.bool true)) → outcome (.inList x (y :: ys) false) ≠ none →
      outcome (.inList x (y :: ys) false) = some (.ok (.bool true)) := by
  intro outcome
  obtain ⟨tests, each, membership⟩ := exists_equations c still.1 still.2
  have joined := comesTo_disjunction each
  have within : ComesTo ((inList x (y :: ys) false).eval c) (together (upToFirst tests)) := by
    simpa using membership false
  have undefined : outcome (disjunction x y ys) = none ↔ none ∈ tests :=
    (joined.none_iff draws).trans together_eq_none_iff
  have undefined' : outcome (.inList x (y :: ys) false) = none ↔ none ∈ upToFirst tests :=
    (within.none_iff draws).trans together_eq_none_iff
  refine ⟨fun defined => ?_, undefined.trans (none_mem_iff draws each),
    undefined'.trans (none_mem_upToFirst_iff draws each), fun b => ?_, fun z member holds defined => ?_⟩
  · rw [together_upToFirst (undefined.not.mp defined)] at within
    exact within.agree draws joined
  · rw [within.ok_iff draws, (membership true).ok_iff draws]
    rcases together (upToFirst tests) with _ | _ | _ | _ <;> cases b <;> simp
  · have held := holds_mem_of_mem draws each member holds
    exact (within.ok_iff draws true).mpr
      (together_of_holds (mem_upToFirst_of_mem held) (undefined'.not.mp defined))

def three : Expression := .term (.typed "3" Vocabulary.xsdInteger)

def threeByZero : Expression := .binary (.arithmetic .div) three (.term (.typed "0" Vocabulary.xsdInteger))

def vastFloor : Expression := .call .floor [vastZero]

/-- Three is in a list behind a name without value and a quotient by zero, whose equations fail, and before a floor that
is not there, whose equation has no outcome. The disjunction has none for that. -/
theorem Expression.inList_disjunction_while_defined_three :
    (three.draws = false ∧ ∀ z ∈ [.var "missing", threeByZero, three, vastFloor], z.draws = false) ∧
    ((inList three [.var "missing", threeByZero, three, vastFloor] false).eval newYear {}).map Prod.fst =
      some (.ok (.bool true)) ∧
    ((inList three [.var "missing", threeByZero, three, vastFloor] true).eval newYear {}).map Prod.fst =
      some (.ok (.bool false)) ∧
    ((disjunction three (.var "missing") [threeByZero, three, vastFloor]).eval newYear {}).map Prod.fst = none ∧
    (∃ e, ((inList three [.var "missing", threeByZero] false).eval newYear {}).map Prod.fst = some (.error e)) ∧
    ∃ e, ((disjunction three (.var "missing") [threeByZero]).eval newYear {}).map Prod.fst = some (.error e) := by
  have still : three.draws = false ∧ ∀ z ∈ [.var "missing", threeByZero, three, vastFloor], z.draws = false := by
    simp [draws, drawsEach, Function.draws, threeByZero, three, vastFloor, vastZero]
  obtain ⟨-, undefined, -, opposite, decides⟩ :=
    inList_disjunction_while_defined newYear three (.var "missing") [threeByZero, three, vastFloor] still {}
  have found := decides three (by simp) rfl (Option.ne_none_iff_exists.mpr ⟨.ok (.bool true), rfl⟩)
  exact ⟨still, found, (opposite false).mpr found, undefined.mpr ⟨vastFloor, by simp, rfl⟩, ⟨_, rfl⟩, ⟨_, rfl⟩⟩

end TemplateQuery
