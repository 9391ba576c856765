import TemplateQuery.Proofs.Eval.Produced

/-! Evaluations side by side. Two states that a relation holds of stay so under evaluations that differ only in how they
give labels to names: nothing else looks at the labels, and every built-in function hands the state on as its arguments
left it. -/

set_option autoImplicit false

namespace TemplateQuery

namespace Eval

variable {α β : Type} {S : Draws → Draws → Prop}

/-- The same outcome from related states, and related states behind it; or no outcome on either side. -/
def Parallel (S : Draws → Draws → Prop) (x y : Eval α) : Prop :=
  ∀ draws draws', S draws draws' → Option.Rel (fun p q => p.1 = q.1 ∧ S p.2 q.2) (x draws) (y draws')

/-- A relation that drawing from the supply keeps, and that shares the supply. -/
structure Drawable (S : Draws → Draws → Prop) : Prop where
  next : ∀ {draws draws'}, S draws draws' → draws.next = draws'.next
  drawn : ∀ {draws draws'}, S draws draws' →
    S { draws with next := draws.next + 1 } { draws' with next := draws'.next + 1 }

theorem parallel_pure (a : α) : Parallel S (pure a) (pure a) := fun _ _ related => .some ⟨rfl, related⟩

theorem parallel_throw (e : EvalError) : Parallel S (throw e : Eval α) (throw e) :=
  fun _ _ related => .some ⟨rfl, related⟩

theorem parallel_ofOutcome (o : Outcome α) : Parallel S (ofOutcome o) (ofOutcome o) := by
  intro draws draws' related
  cases o with
  | none => exact .none
  | some outcome => exact .some ⟨rfl, related⟩

theorem parallel_failType (fault : TypeFault) : Parallel S (failType fault : Eval α) (failType fault) :=
  parallel_throw _

theorem Parallel.bind {x y : Eval α} {k k' : α → Eval β} (first : Parallel S x y)
    (next : ∀ a, Parallel S (k a) (k' a)) : Parallel S (x >>= k) (y >>= k') := by
  intro draws draws' related
  have between := first draws draws' related
  generalize left : x draws = p at between
  generalize right : y draws' = q at between
  cases between with
  | none =>
    rw [bind_of_none left, bind_of_none right]
    exact .none
  | @some p q behind =>
    obtain ⟨outcome, draws₁⟩ := p
    obtain ⟨outcome', draws₁'⟩ := q
    obtain ⟨rfl, related⟩ := behind
    -- The outcomes are equal, so that both sides go on with one value or both stop.
    cases outcome with
    | ok a =>
      rw [bind_of_ok left, bind_of_ok right]
      exact next a _ _ related
    | error e =>
      rw [bind_of_error left, bind_of_error right]
      exact .some ⟨rfl, related⟩

theorem Parallel.attempt {x y : Eval α} (each : Parallel S x y) : Parallel S (attempt x) (attempt y) := by
  intro draws draws' related
  have behind := each draws draws' related
  unfold Eval.attempt
  generalize x draws = p at behind ⊢
  generalize y draws' = q at behind ⊢
  cases behind with
  | none => exact .none
  | some behind => exact .some ⟨congrArg Except.ok behind.1, behind.2⟩

theorem parallel_ofExcept (x : Except TypeFault α) : Parallel S (ofExcept x) (ofExcept x) := by
  cases x with
  | ok a => exact parallel_pure a
  | error fault => exact parallel_throw _

theorem parallel_truth (v : Value) : Parallel S (truth v) (truth v) := by
  unfold truth
  split
  · exact parallel_pure _
  · exact parallel_failType _

theorem parallel_draw (drawable : Drawable S) : Parallel S draw draw := by
  intro draws draws' related
  exact .some ⟨congrArg Except.ok (drawable.next related), drawable.drawn related⟩

theorem parallel_freshLabel (drawable : Drawable S) : Parallel S freshLabel freshLabel :=
  (parallel_draw drawable).bind fun _ => parallel_pure _

theorem Parallel.string {x y : Eval Value} (arg : Parallel S x y) (f : Function) :
    Parallel S (string f x) (string f y) := by
  refine arg.bind fun v => ?_
  split
  · exact parallel_pure _
  · exact parallel_failType _

theorem Parallel.untagged {x y : Eval Value} (arg : Parallel S x y) (f : Function) :
    Parallel S (untagged f x) (untagged f y) := by
  refine (arg.string f).bind fun s => ?_
  split
  · exact parallel_failType _
  · exact parallel_pure _

theorem Parallel.compatibleStrings {x y x' y' : Eval Value} (first : Parallel S x y) (second : Parallel S x' y')
    (f : Function) : Parallel S (compatibleStrings f x x') (compatibleStrings f y y') := by
  refine (first.string f).bind fun a => (second.string f).bind fun b => ?_
  split
  · exact parallel_pure _
  · exact parallel_failType _

end Eval

open Eval

variable {S : Draws → Draws → Prop}

def Function.draws : Function → Bool
  | .rand | .uuid | .strUuid | .bnode => true
  | _ => false

mutual

def Expression.draws : Expression → Bool
  | .var _ | .term _ | .existsGroup _ => false
  | .binary _ left right => left.draws || right.draws
  | .unary _ operand => operand.draws
  | .call f args => f.draws || Expression.drawsEach args
  | .cast _ arg => arg.draws
  | .inList test items _ => test.draws || Expression.drawsEach items

def Expression.drawsEach : List Expression → Bool
  | [] => false
  | e :: rest => e.draws || Expression.drawsEach rest

end

/-! ## Arguments -/

abbrev Arguments.Parallel (S : Draws → Draws → Prop) (args args' : Arguments) : Prop :=
  List.Forall₂ (Eval.Parallel S) args args'

namespace Arguments

variable {f : Function} {args args' : Arguments}

theorem Parallel.zero (each : Parallel S args args') {k k' : Eval Value} (same : Eval.Parallel S k k') :
    Eval.Parallel S (args.zero f k) (args'.zero f k') := by
  cases each with
  | nil => exact same
  | cons _ _ => exact parallel_throw _

theorem Parallel.one (each : Parallel S args args') {k k' : Eval Value → Eval Value}
    (same : ∀ {a a'}, Eval.Parallel S a a' → Eval.Parallel S (k a) (k' a')) :
    Eval.Parallel S (args.one f k) (args'.one f k') := by
  rcases each with _ | ⟨first, _ | ⟨_, _⟩⟩
  · exact parallel_throw _
  · exact same first
  · exact parallel_throw _

theorem Parallel.two (each : Parallel S args args') {k k' : Eval Value → Eval Value → Eval Value}
    (same : ∀ {a a' b b'}, Eval.Parallel S a a' → Eval.Parallel S b b' → Eval.Parallel S (k a b) (k' a' b')) :
    Eval.Parallel S (args.two f k) (args'.two f k') := by
  rcases each with _ | ⟨first, _ | ⟨second, _ | ⟨_, _⟩⟩⟩
  · exact parallel_throw _
  · exact parallel_throw _
  · exact same first second
  · exact parallel_throw _

theorem Parallel.three (each : Parallel S args args') {k k' : Eval Value → Eval Value → Eval Value → Eval Value}
    (same : ∀ {a a' b b' c c'}, Eval.Parallel S a a' → Eval.Parallel S b b' → Eval.Parallel S c c' →
      Eval.Parallel S (k a b c) (k' a' b' c')) :
    Eval.Parallel S (args.three f k) (args'.three f k') := by
  rcases each with _ | ⟨first, _ | ⟨second, _ | ⟨third, _ | ⟨_, _⟩⟩⟩⟩
  · exact parallel_throw _
  · exact parallel_throw _
  · exact parallel_throw _
  · exact same first second third
  · exact parallel_throw _

abbrev ParallelOption (S : Draws → Draws → Prop) (a a' : Option (Eval Value)) : Prop :=
  Option.Rel (Eval.Parallel S) a a'

theorem Parallel.zeroOrOne (each : Parallel S args args') {k k' : Option (Eval Value) → Eval Value}
    (same : ∀ {a a'}, ParallelOption S a a' → Eval.Parallel S (k a) (k' a')) :
    Eval.Parallel S (args.zeroOrOne f k) (args'.zeroOrOne f k') := by
  rcases each with _ | ⟨first, _ | ⟨_, _⟩⟩
  · exact same .none
  · exact same (.some first)
  · exact parallel_throw _

theorem Parallel.twoOrThree (each : Parallel S args args')
    {k k' : Eval Value → Eval Value → Option (Eval Value) → Eval Value}
    (same : ∀ {a a' b b' c c'}, Eval.Parallel S a a' → Eval.Parallel S b b' → ParallelOption S c c' →
      Eval.Parallel S (k a b c) (k' a' b' c')) :
    Eval.Parallel S (args.twoOrThree f k) (args'.twoOrThree f k') := by
  rcases each with _ | ⟨first, _ | ⟨second, _ | ⟨third, _ | ⟨_, _⟩⟩⟩⟩
  · exact parallel_throw _
  · exact parallel_throw _
  · exact same first second .none
  · exact same first second (.some third)
  · exact parallel_throw _

theorem Parallel.threeOrFour (each : Parallel S args args')
    {k k' : Eval Value → Eval Value → Eval Value → Option (Eval Value) → Eval Value}
    (same : ∀ {a a' b b' c c' d d'}, Eval.Parallel S a a' → Eval.Parallel S b b' → Eval.Parallel S c c' →
      ParallelOption S d d' → Eval.Parallel S (k a b c d) (k' a' b' c' d')) :
    Eval.Parallel S (args.threeOrFour f k) (args'.threeOrFour f k') := by
  rcases each with _ | ⟨first, _ | ⟨second, _ | ⟨third, _ | ⟨fourth, _ | ⟨_, _⟩⟩⟩⟩⟩
  · exact parallel_throw _
  · exact parallel_throw _
  · exact parallel_throw _
  · exact same first second third .none
  · exact same first second third (.some fourth)
  · exact parallel_throw _

end Arguments

/-! ## Built-in functions -/

namespace Builtin

open Arguments (ParallelOption)

variable {f : Function} {args args' : Arguments}

section
variable (each : Arguments.Parallel S args args')
include each

theorem ask_parallel (p : Value → Bool) : Parallel S (ask f p args) (ask f p args') :=
  each.one fun arg => arg.bind fun _ => parallel_pure _

theorem str_parallel : Parallel S (str args) (str args') := by
  refine each.one fun arg => arg.bind fun v => ?_
  repeat' split
  · exact parallel_pure _
  · exact parallel_failType _
  · exact parallel_ofOutcome none

theorem lang_parallel : Parallel S (lang args) (lang args') := by
  refine each.one fun arg => arg.bind fun v => ?_
  split
  · exact parallel_pure _
  · exact parallel_failType _

theorem datatype_parallel : Parallel S (datatype args) (datatype args') := by
  refine each.one fun arg => arg.bind fun v => ?_
  split
  · exact parallel_pure _
  · exact parallel_failType _

theorem iri_parallel (base : Option String) : Parallel S (iri base args) (iri base args') := by
  refine each.one fun arg => arg.bind fun v => ?_
  split
  · exact parallel_pure _
  · exact parallel_pure _
  · exact parallel_failType _

theorem strDt_parallel : Parallel S (strDt args) (strDt args') := by
  refine each.two fun first second => (first.untagged _).bind fun _ => second.bind fun v => ?_
  split
  · exact parallel_pure _
  · exact parallel_failType _

theorem strLang_parallel : Parallel S (strLang args) (strLang args') := by
  refine each.two fun first second => (first.string _).bind fun _ => (second.string _).bind fun _ => ?_
  split
  · exact parallel_failType _
  · exact parallel_pure _

theorem mapText_parallel (g : List Char → List Char) : Parallel S (mapText f g args) (mapText f g args') :=
  each.one fun arg => (arg.string f).bind fun _ => parallel_pure _

theorem testTexts_parallel (g : List Char → List Char → Bool) :
    Parallel S (testTexts f g args) (testTexts f g args') :=
  each.two fun first second => (first.compatibleStrings second f).bind fun _ => parallel_pure _

theorem cutText_parallel (g : StringArg → StringArg → Value) : Parallel S (cutText f g args) (cutText f g args') :=
  each.two fun first second => (first.compatibleStrings second f).bind fun _ => parallel_pure _

theorem sameTerm_parallel : Parallel S (sameTerm args) (sameTerm args') := by
  refine each.two fun first second => first.bind fun _ => second.bind fun _ => ?_
  split
  · exact parallel_pure _
  · exact parallel_ofOutcome none

theorem numeric_parallel (g : Value → Outcome Value) : Parallel S (numeric f g args) (numeric f g args') :=
  each.one fun arg => arg.bind fun _ => parallel_ofOutcome _

theorem ofDateTime_parallel {g : DateTime → Eval Value} (same : ∀ t, Parallel S (g t) (g t)) :
    Parallel S (ofDateTime f g args) (ofDateTime f g args') := by
  refine each.one fun arg => arg.bind fun v => ?_
  split
  · exact same _
  · exact parallel_failType _

theorem dateField_parallel (g : DateTime → Int) : Parallel S (dateField f g args) (dateField f g args') :=
  ofDateTime_parallel each fun _ => parallel_pure _

theorem timezone_parallel : Parallel S (timezone args) (timezone args') := by
  refine ofDateTime_parallel each fun t => ?_
  split
  · exact parallel_pure _
  · exact parallel_failType _

theorem digest_parallel (g : String → List Char) : Parallel S (digest f g args) (digest f g args') :=
  each.one fun arg => (arg.untagged f).bind fun _ => parallel_pure _

theorem concatFrom_parallel (text : List Char) (lang : Option (Option String)) :
    Parallel S (concatFrom text lang args) (concatFrom text lang args') := by
  induction each generalizing text lang with
  | nil => exact parallel_pure _
  | cons first _ ih => exact (first.string _).bind fun _ => ih _ _

theorem choose_parallel : Parallel S (choose args) (choose args') := by
  -- The condition goes first and then the branch it chooses, the same one on both sides.
  refine each.three fun condition yes no => condition.bind fun v => (parallel_truth v).bind fun b => ?_
  cases b with
  | true => exact yes
  | false => exact no

theorem coalesce_parallel : Parallel S (coalesce args) (coalesce args') := by
  induction each with
  | nil => exact parallel_failType _
  | cons first _ ih =>
    refine first.attempt.bind fun outcome => ?_
    -- An argument that fails may have drawn from the supply before, on both sides alike.
    cases outcome with
    | ok v => exact parallel_pure v
    | error e => exact ih

end

theorem position_parallel {x y : Eval Value} (arg : Parallel S x y) : Parallel S (position f x) (position f y) := by
  refine arg.bind fun v => ?_
  split
  · exact parallel_failType _
  · split
    · exact parallel_pure _
    · exact parallel_failType _

theorem substr_parallel {a a' b b' : Eval Value} {c c' : Option (Eval Value)} (text : Parallel S a a')
    (start : Parallel S b b') (length : ParallelOption S c c') : Parallel S (substr a b c) (substr a' b' c') := by
  refine (text.string _).bind fun _ => (position_parallel start).bind fun _ => ?_
  cases length with
  | none => exact parallel_pure _
  | some length => exact (position_parallel length).bind fun _ => parallel_pure _

theorem flagText_parallel {c c' : Option (Eval Value)} (flags : ParallelOption S c c') :
    Parallel S (flagText f c) (flagText f c') := by
  cases flags with
  | none => exact parallel_pure _
  | some arg => exact (arg.string f).bind fun _ => parallel_pure _

theorem ofPattern_parallel {α : Type} (x : Except PatternFault α) : Parallel S (ofPattern x) (ofPattern x) := by
  cases x with
  | ok a => exact parallel_pure a
  | error fault => exact parallel_throw _

theorem regex_parallel {a a' b b' : Eval Value} {c c' : Option (Eval Value)} (text : Parallel S a a')
    (pattern : Parallel S b b') (flags : ParallelOption S c c') : Parallel S (regex a b c) (regex a' b' c') :=
  (text.string _).bind fun _ => (pattern.string _).bind fun _ => (flagText_parallel flags).bind fun _ =>
    (ofPattern_parallel _).bind fun _ => parallel_pure _

theorem replace_parallel {a a' b b' c c' : Eval Value} {d d' : Option (Eval Value)} (text : Parallel S a a')
    (pattern : Parallel S b b') (replacement : Parallel S c c') (flags : ParallelOption S d d') :
    Parallel S (replace a b c d) (replace a' b' c' d') := by
  refine (text.string _).bind fun _ => (pattern.string _).bind fun _ => (replacement.string _).bind fun _ =>
    (flagText_parallel flags).bind fun _ => (ofPattern_parallel _).bind fun m => ?_
  split
  · exact (parallel_throw _).bind fun _ => parallel_pure _
  · exact parallel_pure _

/-- A call of any function but the one that gives labels to names. The relation must let draw only for those that do. -/
theorem call_parallel (drawable : f.draws = true → Drawable S) (c : Context) (other : f ≠ .bnode)
    (each : Arguments.Parallel S args args') : Parallel S (call c f args) (call c f args') := by
  cases f with
  | bnode => exact absurd rfl other
  | bound => exact each.one fun _ => parallel_failType _
  | isIri | isBlank | isLiteral | isNumeric => exact ask_parallel each _
  | str => exact str_parallel each
  | lang => exact lang_parallel each
  | datatype => exact datatype_parallel each
  | iri => exact iri_parallel each _
  | strDt => exact strDt_parallel each
  | strLang => exact strLang_parallel each
  | sameTerm => exact sameTerm_parallel each
  | langMatches =>
    exact each.two fun first second => (first.string _).bind fun _ => (second.string _).bind fun _ => parallel_pure _
  | strLen => exact each.one fun arg => (arg.string _).bind fun _ => parallel_pure _
  | subStr => exact each.twoOrThree substr_parallel
  | ucase | lcase => exact mapText_parallel each _
  | strStarts => exact testTexts_parallel each fun text front => front.isPrefixOf text
  | strEnds => exact testTexts_parallel each fun text back => back.isSuffixOf text
  | contains => exact testTexts_parallel each fun text part => Text.contains part text
  | strBefore | strAfter => exact cutText_parallel each _
  | encodeForUri => exact each.one fun arg => (arg.string _).bind fun _ => parallel_pure _
  | concat => exact concatFrom_parallel each _ _
  | regex => exact each.twoOrThree regex_parallel
  | replace => exact each.threeOrFour replace_parallel
  | abs | round | ceil | floor => exact numeric_parallel each _
  | rand | uuid | strUuid => exact each.zero ((parallel_draw (drawable rfl)).bind fun _ => parallel_pure _)
  | now => exact each.zero (parallel_pure _)
  | year | month | day | hours | minutes => exact dateField_parallel each _
  | seconds | tz => exact ofDateTime_parallel each fun _ => parallel_pure _
  | timezone => exact timezone_parallel each
  | md5 | sha1 | sha256 | sha384 | sha512 => exact digest_parallel each _
  | ifThenElse => exact choose_parallel each
  | coalesce => exact coalesce_parallel each

end Builtin

/-! ## Operators -/

namespace Eval

theorem both_parallel (decisive : Bool) {x y x' y' : Eval Value} (left : Parallel S x y) (right : Parallel S x' y') :
    Parallel S (both decisive x x') (both decisive y y') := by
  refine (left.bind parallel_truth).attempt.bind fun l => (right.bind parallel_truth).attempt.bind fun r => ?_
  split
  · exact parallel_pure _
  · exact parallel_throw _

theorem member_parallel (needle : Value) (negated : Bool) (failure : Option EvalError)
    {items items' : List (Eval Value)} (each : Arguments.Parallel S items items') :
    Parallel S (member needle negated failure items) (member needle negated failure items') := by
  induction each generalizing failure with
  | nil =>
    unfold member
    split
    · exact parallel_throw _
    · exact parallel_pure _
  | cons first _ ih =>
    refine (first.bind fun v => parallel_ofExcept _).attempt.bind fun outcome => ?_
    split
    · exact parallel_pure _
    · exact ih _
    · exact ih _

theorem binary_parallel (op : BinaryOperator) {x y x' y' : Eval Value} (left : Parallel S x y)
    (right : Parallel S x' y') : Parallel S (binary op x x') (binary op y y') := by
  cases op with
  | or => exact both_parallel true left right
  | and => exact both_parallel false left right
  | compare op => exact left.bind fun _ => right.bind fun _ => (parallel_ofExcept _).bind fun _ => parallel_pure _
  | arithmetic op => exact left.bind fun _ => right.bind fun _ => parallel_ofOutcome _

theorem unary_parallel (op : UnaryOperator) {x y : Eval Value} (operand : Parallel S x y) :
    Parallel S (unary op x) (unary op y) := by
  refine operand.bind fun v => ?_
  cases op with
  | not => exact (parallel_truth v).bind fun _ => parallel_pure _
  | neg => exact parallel_ofExcept _
  | pos =>
    dsimp only
    split
    · exact parallel_pure _
    · exact parallel_failType _

end Eval

end TemplateQuery
