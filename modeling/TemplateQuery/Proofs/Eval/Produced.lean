import TemplateQuery.Proofs.Value.Lexical
import TemplateQuery.Proofs.Value.Operands

/-! What evaluation can produce. Native values come from reading literals and from computing, and a literal stays
uninterpreted only where its datatype does not read it; the one producer that breaks the rule is the cast to single
precision. Dates are those that were read, and the present. -/

set_option autoImplicit false

namespace TemplateQuery

open Vocabulary

namespace Eval

variable {α β : Type} {p : α → Prop} {q : β → Prop}

def Gives (p : α → Prop) (x : Eval α) : Prop := ∀ draws a draws', x draws = some (.ok a, draws') → p a

theorem gives_pure {a : α} (holds : p a) : Gives p (pure a) := by
  rintro draws _ _ ⟨⟩
  exact holds

theorem gives_throw (e : EvalError) : Gives p (throw e : Eval α) := by
  rintro draws _ _ ⟨⟩

theorem gives_failType (fault : TypeFault) : Gives p (failType fault : Eval α) := gives_throw _

theorem gives_ofExcept {x : Except TypeFault α} (each : ∀ a, x = .ok a → p a) : Gives p (ofExcept x) := by
  cases x with
  | ok a => exact gives_pure (each a rfl)
  | error fault => exact gives_throw _

theorem gives_ofOutcome {x : Outcome α} (each : ∀ a, x = some (.ok a) → p a) : Gives p (ofOutcome x) := by
  intro draws a draws' run
  obtain ⟨outcome, found, same⟩ := Option.map_eq_some_iff.mp run
  cases same
  exact each a found

theorem gives_none : Gives p (ofOutcome none : Eval α) := gives_ofOutcome fun _ found => nomatch found

theorem bind_of_ok {x : Eval α} {draws between : Draws} {a : α} (found : x draws = some (.ok a, between))
    (k : α → Eval β) : (x >>= k) draws = k a between := by
  simp only [bind, ExceptT.bind, ExceptT.mk, StateT.bind, ExceptT.bindCont]
  rw [found]
  rfl

theorem bind_of_error {x : Eval α} {draws between : Draws} {e : EvalError}
    (failed : x draws = some (.error e, between)) (k : α → Eval β) : (x >>= k) draws = some (.error e, between) := by
  simp only [bind, ExceptT.bind, ExceptT.mk, StateT.bind, ExceptT.bindCont]
  rw [failed]
  rfl

theorem bind_of_none {x : Eval α} {draws : Draws} (ended : x draws = none) (k : α → Eval β) :
    (x >>= k) draws = none := by
  simp only [bind, ExceptT.bind, ExceptT.mk, StateT.bind, ExceptT.bindCont]
  rw [ended]
  rfl

theorem run_bind {x : Eval α} {k : α → Eval β} {draws draws' : Draws} {b : β}
    (run : (x >>= k) draws = some (.ok b, draws')) :
    ∃ a between, x draws = some (.ok a, between) ∧ k a between = some (.ok b, draws') := by
  rcases outcome : x draws with _ | ⟨e | a, between⟩
  · rw [bind_of_none outcome] at run
    cases run
  · rw [bind_of_error outcome] at run
    cases run
  · rw [bind_of_ok outcome] at run
    exact ⟨a, between, rfl, run⟩

theorem Gives.bind {x : Eval α} {k : α → Eval β} (first : Gives p x) (next : ∀ a, p a → Gives q (k a)) :
    Gives q (x >>= k) := by
  intro draws b draws' run
  obtain ⟨a, between, found, rest⟩ := run_bind run
  exact next a (first _ _ _ found) _ _ _ rest

theorem gives_bind {x : Eval α} {k : α → Eval β} (next : ∀ a, Gives q (k a)) : Gives q (x >>= k) :=
  Gives.bind (p := fun _ => True) (fun _ _ _ _ => trivial) fun a _ => next a

theorem gives_attempt {x : Eval α} (each : Gives p x) :
    Gives (fun outcome => ∀ a, outcome = .ok a → p a) (attempt x) := by
  intro draws outcome draws' run a same
  obtain ⟨⟨_, _⟩, found, ⟨⟩⟩ := Option.map_eq_some_iff.mp run
  exact each draws a draws' (by rw [found, same])

end Eval

open Eval

/-! ## Proper values -/

namespace Value

/-- What an evaluation can produce at a time `now`: any native value, but only dates that were read or the present; and
no literal that its datatype would read, except the texts of single-precision numbers. -/
def Proper (now : DateTime) : Value → Prop
  | .dateTime t => t = now ∨ t.IsWritable
  | .typed lexical datatype =>
    ofTyped? lexical datatype = none ∨ datatype = xsdFloat ∧ ∃ s : Single, lexical = String.ofList s.text
  | _ => True

variable {now : DateTime}

theorem proper_ofTyped (lexical datatype : String) : (ofTyped lexical datatype).Proper now := by
  cases read : ofTyped? lexical datatype with
  | none =>
    rw [ofTyped_of_none read]
    exact .inl read
  | some v =>
    rw [ofTyped_of_some read]
    cases v with
    | typed lexical' datatype' => exact absurd read (ofTyped?_ne_typed _ _ _ _)
    | dateTime t =>
      unfold ofTyped? at read
      dsimp only at read
      repeat' split at read
      all_goals simp only [Option.map_eq_some_iff, Option.some_inj, reduceCtorEq, and_false, exists_false,
        Value.dateTime.injEq, exists_eq_right] at read
      exact .inr (DateTime.isWritable_of_read? read)
    | _ => trivial

theorem proper_ofTerm? {t : Term} {v : Value} (read : ofTerm? t = some v) : v.Proper now := by
  unfold ofTerm? at read
  split at read
  case h_8 => cases read; exact proper_ofTyped _ _
  all_goals cases read
  all_goals trivial

theorem proper_arithmetic {op : Arithmetic} {a b v : Value} (found : a.arithmetic op b = some (.ok v)) :
    v.Proper now := by
  have decimals : ∀ {x y : Decimal}, (onDecimals op x y).map (Except.map Value.decimal) = some (.ok v) →
      v.Proper now := by
    intro x y found
    obtain ⟨outcome, -, same⟩ := Option.map_eq_some_iff.mp found
    cases outcome <;> cases same
    trivial
  unfold arithmetic at found
  split at found
  case h_4 =>
    split at found
    · exact decimals found
    · split at found
      · cases found; trivial
      · cases found
  all_goals
    cases found
    trivial

theorem proper_negate {a v : Value} (found : a.negate = .ok v) : v.Proper now := by
  cases a <;> cases found <;> trivial

theorem proper_round {f : Function} {r : Rounding} {a v : Value} (found : a.round f r = some (.ok v)) :
    v.Proper now := by
  cases a with
  | decimal d =>
    obtain ⟨n, -, ⟨⟩⟩ := Option.map_eq_some_iff.mp found
    trivial
  | _ => cases found <;> trivial

theorem proper_abs {f : Function} {a v : Value} (found : a.abs f = some (.ok v)) : v.Proper now := by
  cases a <;> cases found <;> trivial

theorem proper_castTo {datatype : String} {a v : Value} (found : a.castTo datatype = some (.ok v)) :
    v.Proper now := by
  have mapped : ∀ {α : Type} {x : Option α} {f : α → Value}, x.map f = some v → (∀ y, (f y).Proper now) →
      v.Proper now := by
    intro α x f found each
    obtain ⟨y, -, rfl⟩ := Option.map_eq_some_iff.mp found
    exact each y
  have cast := castTo_eq_ok_iff.mp found
  unfold cast? at cast
  repeat' split at cast
  all_goals
    first
    | exact mapped cast fun _ => trivial
    | exact mapped cast fun _ => Or.inr ⟨rfl, _, rfl⟩
    | cases cast

end Value

/-! ## Built-in functions -/

namespace Arguments

variable {p : Value → Prop} {f : Function} {args : Arguments}

theorem gives_zero {k : Eval Value} (each : Gives p k) : Gives p (args.zero f k) := by
  unfold zero
  split
  · exact each
  · exact gives_throw _

theorem gives_one {k : Eval Value → Eval Value} (each : ∀ a ∈ args, Gives p (k a)) : Gives p (args.one f k) := by
  unfold one
  split
  · exact each _ List.mem_cons_self
  · exact gives_throw _

theorem gives_two {k : Eval Value → Eval Value → Eval Value} (each : ∀ a b, Gives p (k a b)) :
    Gives p (args.two f k) := by
  unfold two
  split
  · exact each _ _
  · exact gives_throw _

theorem gives_zeroOrOne {k : Option (Eval Value) → Eval Value} (each : ∀ a, Gives p (k a)) :
    Gives p (args.zeroOrOne f k) := by
  unfold zeroOrOne
  split
  · exact each _
  · exact each _
  · exact gives_throw _

theorem gives_twoOrThree {k : Eval Value → Eval Value → Option (Eval Value) → Eval Value}
    (each : ∀ a b c, Gives p (k a b c)) : Gives p (args.twoOrThree f k) := by
  unfold twoOrThree
  split
  · exact each _ _ _
  · exact each _ _ _
  · exact gives_throw _

theorem gives_threeOrFour {k : Eval Value → Eval Value → Eval Value → Option (Eval Value) → Eval Value}
    (each : ∀ a b c d, Gives p (k a b c d)) : Gives p (args.threeOrFour f k) := by
  unfold threeOrFour
  split
  · exact each _ _ _ _
  · exact each _ _ _ _
  · exact gives_throw _

end Arguments

namespace Builtin

open Arguments

variable {now : DateTime} {f : Function} {args : Arguments}

theorem ask_proper (p : Value → Bool) : Gives (Value.Proper now) (ask f p args) :=
  gives_one fun _ _ => gives_bind fun _ => gives_pure trivial

theorem str_proper : Gives (Value.Proper now) (str args) := by
  refine gives_one fun _ _ => gives_bind fun v => ?_
  repeat' split
  · exact gives_pure trivial
  · exact gives_failType _
  · exact gives_none

theorem lang_proper : Gives (Value.Proper now) (lang args) := by
  refine gives_one fun _ _ => gives_bind fun v => ?_
  split
  · exact gives_pure trivial
  · exact gives_failType _

theorem datatype_proper : Gives (Value.Proper now) (datatype args) := by
  refine gives_one fun _ _ => gives_bind fun v => ?_
  split
  · exact gives_pure trivial
  · exact gives_failType _

theorem iri_proper (base : Option String) : Gives (Value.Proper now) (iri base args) := by
  refine gives_one fun _ _ => gives_bind fun v => ?_
  split
  · exact gives_pure trivial
  · exact gives_pure trivial
  · exact gives_failType _

theorem bnode_proper : Gives (Value.Proper now) (bnode args) := by
  refine gives_zeroOrOne fun a => ?_
  cases a with
  | none => exact gives_bind fun _ => gives_pure trivial
  | some a => exact gives_bind fun _ => gives_bind fun _ => gives_pure trivial

theorem strDt_proper : Gives (Value.Proper now) (strDt args) := by
  refine gives_two fun _ _ => gives_bind fun _ => gives_bind fun v => ?_
  split
  · exact gives_pure (Value.proper_ofTyped _ _)
  · exact gives_failType _

theorem strLang_proper : Gives (Value.Proper now) (strLang args) := by
  refine gives_two fun _ _ => gives_bind fun _ => gives_bind fun _ => ?_
  split
  · exact gives_failType _
  · exact gives_pure trivial

theorem substr_proper (text start : Eval Value) (length : Option (Eval Value)) :
    Gives (Value.Proper now) (substr text start length) := by
  refine gives_bind fun _ => gives_bind fun _ => ?_
  cases length with
  | none => exact gives_pure trivial
  | some _ => exact gives_bind fun _ => gives_pure trivial

theorem mapText_proper (g : List Char → List Char) : Gives (Value.Proper now) (mapText f g args) :=
  gives_one fun _ _ => gives_bind fun _ => gives_pure trivial

theorem testTexts_proper (g : List Char → List Char → Bool) : Gives (Value.Proper now) (testTexts f g args) :=
  gives_two fun _ _ => gives_bind fun _ => gives_pure trivial

theorem cutText_proper {g : StringArg → StringArg → Value} (each : ∀ a b, (g a b).Proper now) :
    Gives (Value.Proper now) (cutText f g args) :=
  gives_two fun _ _ => gives_bind fun _ => gives_pure (each _ _)

theorem before_proper (a b : StringArg) : (before a b).Proper now := by
  unfold before
  split <;> trivial

theorem after_proper (a b : StringArg) : (after a b).Proper now := by
  unfold after
  split <;> trivial

theorem concatFrom_proper (text : List Char) (lang : Option (Option String)) :
    Gives (Value.Proper now) (concatFrom text lang args) := by
  induction args generalizing text lang with
  | nil => exact gives_pure trivial
  | cons arg rest ih => exact gives_bind fun _ => ih _ _

theorem replace_proper (text pattern replacement : Eval Value) (flags : Option (Eval Value)) :
    Gives (Value.Proper now) (replace text pattern replacement flags) := by
  refine gives_bind fun _ => gives_bind fun _ => gives_bind fun _ => gives_bind fun _ => gives_bind fun _ => ?_
  split
  · exact gives_bind fun _ => gives_pure trivial
  · exact gives_pure trivial

theorem numeric_proper {g : Value → Outcome Value} (each : ∀ v w, g v = some (.ok w) → w.Proper now) :
    Gives (Value.Proper now) (numeric f g args) :=
  gives_one fun _ _ => gives_bind fun v => gives_ofOutcome (each v)

theorem sameTerm_proper : Gives (Value.Proper now) (sameTerm args) := by
  refine gives_two fun _ _ => gives_bind fun _ => gives_bind fun _ => ?_
  split
  · exact gives_pure trivial
  · exact gives_none

theorem ofDateTime_proper {g : DateTime → Eval Value} (each : ∀ t, Gives (Value.Proper now) (g t)) :
    Gives (Value.Proper now) (ofDateTime f g args) := by
  refine gives_one fun _ _ => gives_bind fun v => ?_
  split
  · exact each _
  · exact gives_failType _

theorem dateField_proper (g : DateTime → Int) : Gives (Value.Proper now) (dateField f g args) :=
  ofDateTime_proper fun _ => gives_pure trivial

theorem timezone_proper : Gives (Value.Proper now) (timezone args) := by
  -- Durations have a datatype that is never interpreted.
  refine ofDateTime_proper fun t => ?_
  split
  · exact gives_pure (Or.inl rfl)
  · exact gives_failType _

theorem digest_proper (g : String → List Char) : Gives (Value.Proper now) (digest f g args) :=
  gives_one fun _ _ => gives_bind fun _ => gives_pure trivial

theorem choose_proper (each : ∀ a ∈ args, Gives (Value.Proper now) a) : Gives (Value.Proper now) (choose args) := by
  unfold choose three
  split
  · next condition yes no =>
    refine gives_bind fun _ => gives_bind fun _ => ?_
    split
    · exact each yes (by simp)
    · exact each no (by simp)
  · exact gives_throw _

-- A failure is passed over, so the value is that of an argument whose attempt gave one.
theorem coalesce_proper (each : ∀ a ∈ args, Gives (Value.Proper now) a) :
    Gives (Value.Proper now) (coalesce args) := by
  induction args with
  | nil => exact gives_failType _
  | cons arg rest ih =>
    refine Gives.bind (gives_attempt (each arg List.mem_cons_self)) fun outcome proper => ?_
    cases outcome with
    | ok v => exact gives_pure (proper v rfl)
    | error e => exact ih fun a member => each a (List.mem_cons_of_mem arg member)

theorem call_proper {c : Context} (each : ∀ a ∈ args, Gives (Value.Proper c.now) a) :
    Gives (Value.Proper c.now) (call c f args) := by
  cases f with
  | bound => exact gives_one fun _ _ => gives_failType _
  | isIri | isBlank | isLiteral | isNumeric => exact ask_proper _
  | str => exact str_proper
  | lang => exact lang_proper
  | datatype => exact datatype_proper
  | iri => exact iri_proper _
  | bnode => exact bnode_proper
  | strDt => exact strDt_proper
  | strLang => exact strLang_proper
  | sameTerm => exact sameTerm_proper
  | langMatches => exact gives_two fun _ _ => gives_bind fun _ => gives_bind fun _ => gives_pure trivial
  | strLen | encodeForUri => exact gives_one fun _ _ => gives_bind fun _ => gives_pure trivial
  | subStr => exact gives_twoOrThree substr_proper
  | ucase | lcase => exact mapText_proper _
  | strStarts => exact testTexts_proper fun text front => front.isPrefixOf text
  | strEnds => exact testTexts_proper fun text back => back.isSuffixOf text
  | contains => exact testTexts_proper fun text part => Text.contains part text
  | strBefore => exact cutText_proper before_proper
  | strAfter => exact cutText_proper after_proper
  | concat => exact concatFrom_proper _ _
  | regex =>
    exact gives_twoOrThree fun _ _ _ => gives_bind fun _ => gives_bind fun _ => gives_bind fun _ => gives_bind fun _ =>
      gives_pure trivial
  | replace => exact gives_threeOrFour replace_proper
  | abs => exact numeric_proper fun _ _ => Value.proper_abs
  | round | ceil | floor => exact numeric_proper fun _ _ => Value.proper_round
  | rand | uuid | strUuid => exact gives_zero (gives_bind fun _ => gives_pure trivial)
  | now => exact gives_zero (gives_pure (Or.inl rfl))
  | year | month | day | hours | minutes => exact dateField_proper _
  | seconds | tz => exact ofDateTime_proper fun _ => gives_pure trivial
  | timezone => exact timezone_proper
  | md5 | sha1 | sha256 | sha384 | sha512 => exact digest_proper _
  | ifThenElse => exact choose_proper each
  | coalesce => exact coalesce_proper each

end Builtin

/-! ## Expressions -/

namespace Eval

variable {now : DateTime}

theorem both_proper (decisive : Bool) (left right : Eval Value) :
    Gives (Value.Proper now) (both decisive left right) := by
  refine gives_bind fun _ => gives_bind fun _ => ?_
  split
  · exact gives_pure trivial
  · exact gives_throw _

theorem member_proper (needle : Value) (negated : Bool) (failure : Option EvalError) (items : List (Eval Value)) :
    Gives (Value.Proper now) (member needle negated failure items) := by
  induction items generalizing failure with
  | nil =>
    unfold member
    split
    · exact gives_throw _
    · exact gives_pure trivial
  | cons item rest ih =>
    refine gives_bind fun outcome => ?_
    split
    · exact gives_pure trivial
    · exact ih _
    · exact ih _

theorem binary_proper (op : BinaryOperator) (left right : Eval Value) :
    Gives (Value.Proper now) (binary op left right) := by
  cases op with
  | or => exact both_proper _ _ _
  | and => exact both_proper _ _ _
  | compare op => exact gives_bind fun _ => gives_bind fun _ => gives_bind fun _ => gives_pure trivial
  | arithmetic op =>
    exact gives_bind fun l => gives_bind fun r => gives_ofOutcome fun v => Value.proper_arithmetic

theorem unary_proper (op : UnaryOperator) {operand : Eval Value} (proper : Gives (Value.Proper now) operand) :
    Gives (Value.Proper now) (unary op operand) := by
  refine Gives.bind proper fun v proper => ?_
  cases op with
  | not => exact gives_bind fun _ => gives_pure trivial
  | neg => exact gives_ofExcept fun _ => Value.proper_negate
  | pos =>
    dsimp only
    split
    · exact gives_pure proper
    · exact gives_failType _

end Eval

mutual

theorem Expression.eval_proper (c : Context) (e : Expression) : Gives (Value.Proper c.now) (e.eval c) := by
  match e with
  | .var name =>
    rw [Expression.eval]
    split
    · next v read =>
      obtain ⟨t, -, read⟩ := Option.bind_eq_some_iff.mp read
      exact gives_pure (Value.proper_ofTerm? read)
    · exact gives_throw _
  | .term t =>
    rw [Expression.eval]
    split
    · next v read => exact gives_pure (Value.proper_ofTerm? read)
    · exact gives_throw _
  | .binary op left right =>
    rw [Expression.eval]
    exact binary_proper op _ _
  | .unary op operand =>
    rw [Expression.eval]
    exact unary_proper op (Expression.eval_proper c operand)
  | .call f args =>
    rcases Expression.call_cases f args with ⟨name, rfl, rfl⟩ | other
    · rw [Expression.eval]
      exact gives_pure trivial
    · rw [eval_call other]
      exact Builtin.call_proper (Expression.evalEach_proper c args)
  | .cast datatype arg =>
    -- What the argument gives does not matter: a cast makes a value of its own.
    rw [Expression.eval]
    exact gives_bind fun _ => gives_ofOutcome fun _ => Value.proper_castTo
  | .inList test items negated =>
    rw [Expression.eval]
    exact gives_bind fun _ => member_proper _ _ _ _
  | .existsGroup negated =>
    rw [Expression.eval]
    exact gives_pure trivial

theorem Expression.evalEach_proper (c : Context) (es : List Expression) :
    ∀ x ∈ Expression.evalEach c es, Gives (Value.Proper c.now) x := by
  match es with
  | [] => exact fun _ none => absurd none (by simp [Expression.evalEach])
  | e :: rest =>
    rw [Expression.evalEach, List.forall_mem_cons]
    exact ⟨Expression.eval_proper c e, Expression.evalEach_proper c rest⟩

end

end TemplateQuery
