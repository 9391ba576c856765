import Mathlib.Data.Set.Function
import Mathlib.Order.Interval.Set.Defs
import TemplateQuery.Proofs.Eval.Aliases
import TemplateQuery.Proofs.Eval.Parallel
import TemplateQuery.Proofs.Text.Pairs

/-! Blank nodes made for names. Every call is written down, at any depth of any column of any row, and so are the labels
given: two calls have the same label exactly when they ask for the same name within one column of one row. -/

set_option autoImplicit false

namespace TemplateQuery

open Eval

/-! ## Writing calls down -/

/-- The label for a name, with an entry for every call and not only for the first. -/
def Eval.noteLabel (name : String) : Eval String := do
  let before := (← get).labels
  let label ← labelFor name
  modify fun draws => { draws with labels := (name, label) :: before }
  return label

def Builtin.bnodeBy (labelled : String → Eval String) (args : Arguments) : Eval Value :=
  args.zeroOrOne .bnode fun
    | none => do return .blank (← freshLabel)
    | some a => do
      let name ← untagged .bnode a
      return .blank (← labelled (String.ofList name))

mutual

/-- The value of an expression, where the labels for names are given in a way of their own. -/
def Expression.evalBy (labelled : String → Eval String) (c : Context) : Expression → Eval Value
  | .binary op left right => Eval.binary op (left.evalBy labelled c) (right.evalBy labelled c)
  | .unary op operand => Eval.unary op (operand.evalBy labelled c)
  | .call .bound [.var name] => (Expression.call .bound [.var name]).eval c
  -- No other function asks for the label of a name.
  | .call .bnode args => Builtin.bnodeBy labelled (Expression.evalEachBy labelled c args)
  | .call f args => Builtin.call c f (Expression.evalEachBy labelled c args)
  | .cast datatype arg => do ofOutcome ((← arg.evalBy labelled c).castTo datatype)
  | .inList test items negated => do
    member (← test.evalBy labelled c) negated none (Expression.evalEachBy labelled c items)
  | e => e.eval c

def Expression.evalEachBy (labelled : String → Eval String) (c : Context) : List Expression → List (Eval Value)
  | [] => []
  | e :: rest => e.evalBy labelled c :: Expression.evalEachBy labelled c rest

end

theorem Expression.evalBy_call {f : Function} {args : List Expression}
    (other : ∀ name, f = .bound → args ≠ [.var name]) (named : f ≠ .bnode) (labelled : String → Eval String)
    (c : Context) :
    (Expression.call f args).evalBy labelled c = Builtin.call c f (Expression.evalEachBy labelled c args) := by
  rw [Expression.evalBy]
  · exact other
  · exact named

mutual

theorem Expression.evalBy_labelFor (c : Context) (e : Expression) : e.evalBy labelFor c = e.eval c := by
  match e with
  | .var name => rfl
  | .term t => rfl
  | .existsGroup negated => rfl
  | .binary op left right =>
    simp only [Expression.evalBy, Expression.eval, evalBy_labelFor c left, evalBy_labelFor c right]
  | .unary op operand => simp only [Expression.evalBy, Expression.eval, evalBy_labelFor c operand]
  | .call f args =>
    rcases Expression.call_cases f args with ⟨name, rfl, rfl⟩ | other
    · rw [Expression.evalBy]
    · by_cases named : f = .bnode
      · subst named
        rw [Expression.evalBy, eval_call other, evalEachBy_labelFor c args]
        rfl
      · rw [evalBy_call other named, eval_call other, evalEachBy_labelFor c args]
  | .cast datatype arg => simp only [Expression.evalBy, Expression.eval, evalBy_labelFor c arg]
  | .inList test items negated =>
    simp only [Expression.evalBy, Expression.eval, evalBy_labelFor c test, evalEachBy_labelFor c items]

theorem Expression.evalEachBy_labelFor (c : Context) (es : List Expression) :
    Expression.evalEachBy labelFor c es = Expression.evalEach c es := by
  match es with
  | [] => rfl
  | e :: rest =>
    simp only [Expression.evalEachBy, Expression.evalEach, evalBy_labelFor c e, evalEachBy_labelFor c rest]

end

section
variable {S : Draws → Draws → Prop} {labelled labelled' : String → Eval String}

/-- A relation that is kept whatever is drawn, a number of the supply or a label for a name. -/
structure SideBySide (S : Draws → Draws → Prop) (labelled labelled' : String → Eval String) : Prop where
  drawable : Drawable S
  labels : ∀ name, Parallel S (labelled name) (labelled' name)

theorem Builtin.bnodeBy_parallel (beside : SideBySide S labelled labelled') {args args' : Arguments}
    (same : Arguments.Parallel S args args') : Parallel S (bnodeBy labelled args) (bnodeBy labelled' args') := by
  refine same.zeroOrOne fun arg => ?_
  cases arg with
  | none => exact (parallel_freshLabel beside.drawable).bind fun _ => parallel_pure _
  | some arg => exact (arg.untagged _).bind fun _ => (beside.labels _).bind fun _ => parallel_pure _

mutual

/-- Two ways to give labels that run side by side make evaluations that do. An expression that draws nothing runs so
whatever the relation. -/
theorem Expression.evalBy_parallel (c : Context) (e : Expression)
    (beside : e.draws = true → SideBySide S labelled labelled') :
    Parallel S (e.evalBy labelled c) (e.evalBy labelled' c) := by
  match e with
  | .var name =>
    simp only [Expression.evalBy, Expression.eval]
    split
    · exact parallel_pure _
    · exact parallel_throw _
  | .term t =>
    simp only [Expression.evalBy, Expression.eval]
    split
    · exact parallel_pure _
    · exact parallel_throw _
  | .existsGroup negated => exact parallel_pure _
  | .binary op left right =>
    simp only [Expression.draws, Bool.or_eq_true] at beside
    simp only [Expression.evalBy]
    exact binary_parallel op (evalBy_parallel c left fun drawn => beside (.inl drawn))
      (evalBy_parallel c right fun drawn => beside (.inr drawn))
  | .unary op operand =>
    simp only [Expression.evalBy]
    exact unary_parallel op (evalBy_parallel c operand beside)
  | .call f args =>
    simp only [Expression.draws, Bool.or_eq_true] at beside
    rcases Expression.call_cases f args with ⟨name, rfl, rfl⟩ | other
    · simp only [Expression.evalBy, Expression.eval]
      exact parallel_pure _
    · have each := evalEachBy_parallel c args fun drawn => beside (.inr drawn)
      by_cases named : f = .bnode
      · subst named
        simp only [Expression.evalBy]
        exact Builtin.bnodeBy_parallel (beside (.inl rfl)) each
      · rw [evalBy_call other named, evalBy_call other named]
        exact Builtin.call_parallel (fun drawn => (beside (.inl drawn)).drawable) c named each
  | .cast datatype arg =>
    simp only [Expression.evalBy]
    exact (evalBy_parallel c arg beside).bind fun _ => parallel_ofOutcome _
  | .inList test items negated =>
    simp only [Expression.draws, Bool.or_eq_true] at beside
    simp only [Expression.evalBy]
    exact (evalBy_parallel c test fun drawn => beside (.inl drawn)).bind fun _ =>
      member_parallel _ _ _ (evalEachBy_parallel c items fun drawn => beside (.inr drawn))

theorem Expression.evalEachBy_parallel (c : Context) (es : List Expression)
    (beside : Expression.drawsEach es = true → SideBySide S labelled labelled') :
    Arguments.Parallel S (Expression.evalEachBy labelled c es) (Expression.evalEachBy labelled' c es) := by
  match es with
  | [] => exact .nil
  | e :: rest =>
    simp only [Expression.drawsEach, Bool.or_eq_true] at beside
    simp only [Expression.evalEachBy]
    exact .cons (evalBy_parallel c e fun drawn => beside (.inl drawn))
      (evalEachBy_parallel c rest fun drawn => beside (.inr drawn))

end

end

/-! ## Numbers of labels -/

/-- Labels are given to keys by number: each key has one of its own, within bounds. -/
def Numbered {κ : Type} (start stop : Nat) (given : κ → String → Prop) : Prop :=
  start ≤ stop ∧ ∃ number : κ → Nat,
    (∀ key label, given key label → label = Draws.labelText (number key) ∧ number key ∈ Set.Ico start stop) ∧
    ∀ key label key' label', given key label → given key' label' → number key = number key' → key = key'

def AtPlace {α κ : Type} (given : α → κ → String → Prop) (items : List α) (key : Nat × κ) (label : String) : Prop :=
  ∃ item, items[key.1]? = some item ∧ given item key.2 label

namespace Numbered

variable {α κ : Type} {start middle stop : Nat}

theorem of_none {given : κ → String → Prop} (none : ∀ key label, ¬ given key label) : Numbered start start given :=
  ⟨Nat.le_refl start, fun _ => start, fun key label some => absurd some (none key label),
    fun key label _ _ some => absurd some (none key label)⟩

theorem cons {given : α → κ → String → Prop} {item : α} {items : List α} (first : Numbered start middle (given item))
    (rest : Numbered middle stop (AtPlace given items)) : Numbered start stop (AtPlace given (item :: items)) := by
  obtain ⟨before, number, each, apart⟩ := first
  obtain ⟨after, number', each', apart'⟩ := rest
  refine ⟨before.trans after, fun key => match key with
    | (0, k) => number k
    | (i + 1, k) => number' (i, k), ?_, ?_⟩
  · rintro ⟨_ | i, k⟩ label ⟨found, atPlace, some⟩
    · cases atPlace
      obtain ⟨text, low, high⟩ := each k label some
      exact ⟨text, low, high.trans_le after⟩
    · obtain ⟨text, low, high⟩ := each' (i, k) label ⟨found, atPlace, some⟩
      exact ⟨text, before.trans low, high⟩
  · rintro ⟨_ | i, k⟩ label ⟨_ | i', k'⟩ label' ⟨found, atPlace, some⟩ ⟨found', atPlace', some'⟩ same
    · cases atPlace
      cases atPlace'
      rw [apart k label k' label' some some' same]
    · -- The first number is below the middle and the second is not.
      cases atPlace
      have low := (each k label some).2.2
      have high := (each' (i', k') label' ⟨found', atPlace', some'⟩).2.1
      dsimp only at same
      omega
    · cases atPlace'
      have low := (each k' label' some').2.2
      have high := (each' (i, k) label ⟨found, atPlace, some⟩).2.1
      dsimp only at same
      omega
    · have equal := apart' (i, k) label (i', k') label' ⟨found, atPlace, some⟩ ⟨found', atPlace', some'⟩ same
      cases equal
      rfl

theorem label_eq_iff {given : κ → String → Prop} (numbered : Numbered start stop given)
    (fresh : Set.InjOn Draws.labelText (Set.Ico start stop)) {key key' : κ} {label label' : String}
    (here : given key label) (there : given key' label') : label = label' ↔ key = key' := by
  obtain ⟨-, number, each, apart⟩ := numbered
  obtain ⟨rfl, inside⟩ := each key label here
  obtain ⟨rfl, inside'⟩ := each key' label' there
  constructor
  · exact fun same => apart _ _ _ _ here there (fresh inside inside' same)
  · rintro rfl
    rfl

end Numbered

abbrev Call := String × String

def Call.Given (calls : List Call) (name label : String) : Prop := (name, label) ∈ calls

/-! ## One column -/

namespace Draws

structure Noted (start : Nat) (noted draws : Draws) : Prop where
  next : noted.next = draws.next
  lookup : ∀ name, noted.labels.lookup name = draws.labels.lookup name
  numbered : Numbered start noted.next (Call.Given noted.labels)

theorem noted_start (start : Nat) : Noted start { next := start } { next := start } :=
  ⟨rfl, fun _ => rfl, .of_none fun _ _ => List.not_mem_nil⟩

theorem Noted.drawable (start : Nat) : Drawable (Noted start) where
  next := Noted.next
  drawn := by
    intro noted draws related
    obtain ⟨before, number, each, apart⟩ := related.numbered
    refine ⟨congrArg (· + 1) related.next, related.lookup, Nat.le_succ_of_le before, number, ?_, apart⟩
    intro name label given
    obtain ⟨text, low, high⟩ := each name label given
    exact ⟨text, low, Nat.lt_succ_of_lt high⟩

end Draws

namespace Eval

theorem labelFor_of_some {name label : String} {draws : Draws} (found : draws.labels.lookup name = some label) :
    labelFor name draws = some (.ok label, draws) := by
  have state : (get : Eval Draws) draws = some (.ok draws, draws) := rfl
  rw [labelFor, bind_of_ok state, found]
  rfl

theorem labelFor_of_none {name : String} {draws : Draws} (absent : draws.labels.lookup name = none) :
    labelFor name draws = some (.ok (Draws.labelText draws.next),
      ⟨draws.next + 1, (name, Draws.labelText draws.next) :: draws.labels⟩) := by
  have state : (get : Eval Draws) draws = some (.ok draws, draws) := rfl
  rw [labelFor, bind_of_ok state, absent]
  rfl

theorem noteLabel_eq {name label : String} {draws draws' : Draws}
    (found : labelFor name draws = some (.ok label, draws')) :
    noteLabel name draws = some (.ok label, { draws' with labels := (name, label) :: draws.labels }) := by
  have state : (get : Eval Draws) draws = some (.ok draws, draws) := rfl
  rw [noteLabel, bind_of_ok state, bind_of_ok found]
  rfl

end Eval

theorem lookup_cons_self {name label : String} {labels : List Call} (found : labels.lookup name = some label)
    (other : String) : List.lookup other ((name, label) :: labels) = labels.lookup other := by
  by_cases same : other = name
  · rw [same, found, List.lookup_cons_self]
  · rw [List.lookup_cons, beq_false_of_ne same]

theorem lookup_cons_congr {labels labels' : List Call} (same : ∀ name, labels.lookup name = labels'.lookup name)
    (call : Call) (name : String) : List.lookup name (call :: labels) = List.lookup name (call :: labels') := by
  obtain ⟨given, label⟩ := call
  rw [List.lookup_cons, List.lookup_cons, same]

theorem Numbered.insert {start : Nat} {draws : Draws} {name : String}
    (numbered : Numbered start draws.next (Call.Given draws.labels)) (absent : draws.labels.lookup name = none) :
    Numbered start (draws.next + 1) (Call.Given ((name, Draws.labelText draws.next) :: draws.labels)) := by
  obtain ⟨before, number, each, apart⟩ := numbered
  have others : ∀ {other label}, (other, label) ∈ draws.labels → other ≠ name := by
    rintro other label member rfl
    exact Pairs.notMem_keys absent (List.mem_map_of_mem member)
  -- The others keep their numbers, which are all below the next one.
  refine ⟨Nat.le_succ_of_le before, Function.update number name draws.next, ?_, ?_⟩
  · intro other label given
    rcases List.mem_cons.mp given with here | there
    · cases here
      rw [Function.update_self]
      exact ⟨rfl, before, Nat.lt_succ_self _⟩
    · rw [Function.update_of_ne (others there)]
      obtain ⟨text, low, high⟩ := each other label there
      exact ⟨text, low, Nat.lt_succ_of_lt high⟩
  · intro other label other' label' given given' same
    rcases List.mem_cons.mp given with here | there <;> rcases List.mem_cons.mp given' with here' | there'
    · cases here
      cases here'
      rfl
    · cases here
      rw [Function.update_self, Function.update_of_ne (others there')] at same
      have high := (each other' label' there').2.2
      omega
    · cases here'
      rw [Function.update_self, Function.update_of_ne (others there)] at same
      have high := (each other label there).2.2
      omega
    · rw [Function.update_of_ne (others there), Function.update_of_ne (others there')] at same
      exact apart _ _ _ _ there there' same

theorem Eval.noteLabel_parallel (start : Nat) (name : String) :
    Parallel (Draws.Noted start) (noteLabel name) (labelFor name) := by
  intro noted draws related
  cases found : draws.labels.lookup name with
  | some label =>
    have found' := (related.lookup name).trans found
    rw [noteLabel_eq (labelFor_of_some found'), labelFor_of_some found]
    refine .some ⟨rfl, related.next, fun other => ?_, ?_⟩
    · exact (lookup_cons_self found' other).trans (related.lookup other)
    · -- The entry repeats one that is there.
      have same : ∀ other given, Call.Given ((name, label) :: noted.labels) other given ↔
          Call.Given noted.labels other given := by
        intro other given
        simp only [Call.Given, List.mem_cons, or_iff_right_iff_imp]
        rintro ⟨⟩
        exact Pairs.mem_of_lookup found'
      simpa only [Numbered, same] using related.numbered
  | none =>
    have absent := (related.lookup name).trans found
    rw [noteLabel_eq (labelFor_of_none absent), labelFor_of_none found, ← related.next]
    exact .some ⟨rfl, rfl, lookup_cons_congr related.lookup _, related.numbered.insert absent⟩

/-- The calls made for the value of an expression, the last one first. -/
def Expression.calls (c : Context) (e : Expression) (next : Nat) : List Call :=
  match e.evalBy noteLabel c { next } with
  | some (_, draws) => draws.labels
  | none => []

theorem Expression.noted_eval (c : Context) (e : Expression) (next : Nat) :
    Option.Rel (fun p q => p.1 = q.1 ∧ Draws.Noted next p.2 q.2) (e.evalBy noteLabel c { next })
      (e.eval c { next }) := by
  rw [← Expression.evalBy_labelFor]
  exact Expression.evalBy_parallel c e (fun _ => ⟨Draws.Noted.drawable next, noteLabel_parallel next⟩) _ _
    (Draws.noted_start next)

/-- The calls of an expression have their labels from the stretch of the supply that it draws. -/
theorem Expression.calls_numbered {c : Context} {e : Expression} {next : Nat} {outcome : Except EvalError Value}
    {draws : Draws} (run : e.eval c { next } = some (outcome, draws)) :
    Numbered next draws.next (Call.Given (e.calls c next)) := by
  have noted := e.noted_eval c next
  rw [run] at noted
  unfold Expression.calls
  generalize e.evalBy noteLabel c { next } = written at noted ⊢
  cases noted with
  | @some p _ noted =>
    rw [← noted.2.next]
    exact noted.2.numbered

/-! ## Rows of a query -/

namespace Query

def columnCalls (now : DateTime) (base : Option String) (row : Solution) (next : Nat) :
    List Column → List (List Call)
  | [] => []
  | .var _ :: rest => [] :: columnCalls now base row next rest
  | .computed e name :: rest =>
    e.calls ⟨row, now, base⟩ next :: match computeTerm ⟨row, now, base⟩ e next with
      | some (some t, next) => columnCalls now base (row.insert name t) next rest
      | some (none, next) => columnCalls now base row next rest
      | none => []

def rowCalls (q : Query) (now : DateTime) (row : Solution) (next : Nat) : List (List Call) :=
  match q.projection with
  | .star => []
  | .columns items => columnCalls now q.prologue.base row next items

def callsFrom (q : Query) (now : DateTime) (next : Nat) : List Solution → List (List (List Call))
  | [] => []
  | row :: rest =>
    q.rowCalls now row next :: match q.projectRow now row next with
      | some (_, next) => q.callsFrom now next rest
      | none => []

def Calls (q : Query) (now : DateTime) (next row column : Nat) (name label : String) : Prop :=
  ∃ columns, (q.callsFrom now next q.solutions)[row]? = some columns ∧
    ∃ calls, columns[column]? = some calls ∧ (name, label) ∈ calls

theorem computeTerm_numbered {c : Context} {e : Expression} {next stop : Nat} {t : Option Term}
    (computed : computeTerm c e next = some (t, stop)) : Numbered next stop (Call.Given (e.calls c next)) := by
  unfold computeTerm at computed
  split at computed
  · next run =>
    obtain ⟨_, -, ⟨⟩⟩ := Option.map_eq_some_iff.mp computed
    exact Expression.calls_numbered run
  · next run =>
    cases computed
    exact Expression.calls_numbered run
  · cases computed

theorem columnCalls_numbered {now : DateTime} {base : Option String} {row out result : Solution} {next stop : Nat}
    {items : List Column} (projected : projectFrom now base row out next items = some (result, stop)) :
    Numbered next stop (AtPlace Call.Given (columnCalls now base row next items)) := by
  induction items generalizing row out next with
  | nil =>
    cases projected
    exact .of_none fun key label ⟨calls, found, _⟩ => by simp [columnCalls] at found
  | cons item rest ih =>
    cases item with
    | var name => exact .cons (.of_none fun _ _ => List.not_mem_nil) (ih projected)
    | computed e name =>
      unfold projectFrom at projected
      unfold columnCalls
      -- The columns after it see its value in the row, if it has one, and draw from where it stopped.
      rcases computed : computeTerm ⟨row, now, base⟩ e next with _ | ⟨_ | t, between⟩
      · rw [computed] at projected
        cases projected
      · rw [computed] at projected
        exact .cons (computeTerm_numbered computed) (ih projected)
      · rw [computed] at projected
        exact .cons (computeTerm_numbered computed) (ih projected)

theorem rowCalls_numbered {q : Query} {now : DateTime} {row result : Solution} {next stop : Nat}
    (projected : q.projectRow now row next = some (result, stop)) :
    Numbered next stop (AtPlace Call.Given (q.rowCalls now row next)) := by
  cases shape : q.projection with
  | star =>
    simp only [projectRow, shape] at projected
    cases projected
    simp only [rowCalls, shape]
    exact .of_none fun key label ⟨calls, found, _⟩ => by cases found
  | columns items =>
    simp only [projectRow, shape] at projected
    simp only [rowCalls, shape]
    exact columnCalls_numbered projected

theorem callsFrom_numbered {q : Query} {now : DateTime} {next stop : Nat} {rows results : List Solution}
    (projected : q.projectAll now next rows = some (results, stop)) :
    Numbered next stop (AtPlace (AtPlace Call.Given) (q.callsFrom now next rows)) := by
  induction rows generalizing next results with
  | nil =>
    cases projected
    exact .of_none fun key label ⟨columns, found, _⟩ => by simp [callsFrom] at found
  | cons row rest ih =>
    obtain ⟨⟨result, between⟩, first, projected⟩ := Option.bind_eq_some_iff.mp projected
    obtain ⟨⟨results, stop⟩, others, ⟨⟩⟩ := Option.bind_eq_some_iff.mp projected
    unfold callsFrom
    rw [first]
    exact .cons (rowCalls_numbered first) (ih others)

/-- Two calls for blank nodes, at any depth of the expressions of a query, have the same label exactly when they are
made for the same name in the same column of the same row, as long as no label is drawn twice. Writing the calls down
changes neither the value of an expression nor the supply. -/
theorem same_label_iff (q : Query) (now : DateTime) (next stop : Nat) (results : Results)
    (runs : q.run now next = some (results, stop)) (fresh : Set.InjOn Draws.labelText (Set.Ico next stop)) :
    (∀ row column name label row' column' name' label', q.Calls now next row column name label →
      q.Calls now next row' column' name' label' →
      (label = label' ↔ row = row' ∧ column = column' ∧ name = name')) ∧
    ∀ (c : Context) (e : Expression) (supply : Nat),
      (e.evalBy Eval.noteLabel c { next := supply }).map (fun run => (run.1, run.2.next)) =
        (e.eval c { next := supply }).map (fun run => (run.1, run.2.next)) := by
  constructor
  · intro row column name label row' column' name' label' here there
    obtain ⟨⟨rows, _⟩, projected, ⟨⟩⟩ := Option.bind_eq_some_iff.mp runs
    have numbered := callsFrom_numbered projected
    have place : ∀ {row column name label}, q.Calls now next row column name label →
        AtPlace (AtPlace Call.Given) (q.callsFrom now next q.solutions) (row, column, name) label :=
      fun made => made
    rw [numbered.label_eq_iff fresh (place here) (place there)]
    simp only [Prod.mk.injEq]
  · intro c e supply
    have noted := e.noted_eval c supply
    generalize e.evalBy Eval.noteLabel c { next := supply } = written at noted ⊢
    generalize e.eval c { next := supply } = plain at noted ⊢
    cases noted with
    | none => rfl
    | some noted => rw [Option.map_some, Option.map_some, noted.1, noted.2.next]

def threeNodes : Query where
  prologue := {}
  modifier := none
  projection := .columns [.computed (.call .bnode [.term (.plain "a")]) "x",
    .computed (.call .sameTerm [.call .bnode [.term (.plain "a")], .call .bnode [.term (.plain "b")]]) "y"]
  limit := none
  offset := none
  data := none

/-- The name has a label in each of the two columns, and they differ, though the row is the same. -/
theorem same_label_iff_threeNodes :
    ∃ results, threeNodes.run newYear.now 0 = some (results, 3) ∧ Set.InjOn Draws.labelText (Set.Ico 0 3) ∧
    threeNodes.Calls newYear.now 0 0 0 "a" (Draws.labelText 0) ∧
    threeNodes.Calls newYear.now 0 0 1 "a" (Draws.labelText 1) ∧
    threeNodes.Calls newYear.now 0 0 1 "b" (Draws.labelText 2) ∧
    Draws.labelText 0 ≠ Draws.labelText 1 ∧ Draws.labelText 1 ≠ Draws.labelText 2 := by
  have fresh : Set.InjOn Draws.labelText (Set.Ico 0 3) := by
    have apart : ∀ m < 3, ∀ n < 3, Draws.labelText m = Draws.labelText n → m = n := by decide
    exact fun m inside n inside' same => apart m inside.2 n inside'.2 same
  have first : threeNodes.Calls newYear.now 0 0 0 "a" (Draws.labelText 0) := ⟨_, rfl, _, rfl, by decide⟩
  have second : threeNodes.Calls newYear.now 0 0 1 "a" (Draws.labelText 1) := ⟨_, rfl, _, rfl, by decide⟩
  have third : threeNodes.Calls newYear.now 0 0 1 "b" (Draws.labelText 2) := ⟨_, rfl, _, rfl, by decide⟩
  have apart := (same_label_iff threeNodes newYear.now 0 3 _ rfl fresh).1
  refine ⟨_, rfl, fresh, first, second, third, ?_, ?_⟩
  · rw [ne_eq, apart _ _ _ _ _ _ _ _ first second]
    decide
  · rw [ne_eq, apart _ _ _ _ _ _ _ _ second third]
    decide

end Query

end TemplateQuery
