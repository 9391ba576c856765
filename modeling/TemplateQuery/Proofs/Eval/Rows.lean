import TemplateQuery.Eval.Expression
import TemplateQuery.Proofs.Number.Digits
import TemplateQuery.Proofs.Query.Inline

/-! Values of expressions over rows that were written and read. Only the variables that a row binds and the values of
their terms count, and an integer has its value in canonical digits too. -/

set_option autoImplicit false

namespace TemplateQuery

/-! ## What a value depends on -/

namespace Solution

/-- Rows that bind the same variables, to terms of the same values. -/
def Alike (s s' : Solution) : Prop :=
  ∀ name, (s.get? name).isSome = (s'.get? name).isSome ∧
    (s.get? name).bind Value.ofTerm? = (s'.get? name).bind Value.ofTerm?

end Solution

theorem Builtin.call_row (row row' : Solution) (now : DateTime) (base : Option String) (f : Function)
    (args : Arguments) :
    Builtin.call ⟨row, now, base⟩ f args = Builtin.call ⟨row', now, base⟩ f args := by
  cases f <;> rfl

theorem Expression.call_cases (f : Function) (args : List Expression) :
    (∃ name, f = .bound ∧ args = [.var name]) ∨ ∀ name, f = .bound → args ≠ [.var name] := by
  by_cases asked : ∃ name, f = .bound ∧ args = [.var name]
  · exact .inl asked
  · exact .inr fun name isBound single => asked ⟨name, isBound, single⟩

theorem Expression.eval_call {f : Function} {args : List Expression} (other : ∀ name, f = .bound → args ≠ [.var name])
    (c : Context) : (Expression.call f args).eval c = Builtin.call c f (Expression.evalEach c args) := by
  rw [Expression.eval]
  exact other

mutual

theorem Expression.eval_congr {row row' : Solution} (alike : row.Alike row') (now : DateTime) (base : Option String)
    (e : Expression) : e.eval ⟨row, now, base⟩ = e.eval ⟨row', now, base⟩ := by
  match e with
  | .var name => simp only [Expression.eval, (alike name).2]
  | .term t => rfl
  | .binary op left right =>
    simp only [Expression.eval, Expression.eval_congr alike now base left, Expression.eval_congr alike now base right]
  | .unary op operand => simp only [Expression.eval, Expression.eval_congr alike now base operand]
  | .call f args =>
    rcases Expression.call_cases f args with ⟨name, rfl, rfl⟩ | other
    · simp only [Expression.eval, (alike name).1]
    · rw [eval_call other, eval_call other, Expression.evalEach_congr alike now base args]
      exact Builtin.call_row row row' now base f _
  | .cast datatype arg => simp only [Expression.eval, Expression.eval_congr alike now base arg]
  | .inList test items negated =>
    simp only [Expression.eval, Expression.eval_congr alike now base test,
      Expression.evalEach_congr alike now base items]
  | .existsGroup negated => rfl

theorem Expression.evalEach_congr {row row' : Solution} (alike : row.Alike row') (now : DateTime) (base : Option String)
    (es : List Expression) : Expression.evalEach ⟨row, now, base⟩ es = Expression.evalEach ⟨row', now, base⟩ es := by
  match es with
  | [] => rfl
  | e :: rest =>
    simp only [Expression.evalEach, Expression.eval_congr alike now base e,
      Expression.evalEach_congr alike now base rest]

end

/-! ## Integers in canonical form -/

theorem Text.trim_of_plain {cs : List Char} (plain : ∀ c ∈ cs, isBlank c = false) : trim cs = cs := by
  have kept : ∀ {ds : List Char}, (∀ c ∈ ds, isBlank c = false) → ds.dropWhile isBlank = ds := by
    intro ds plain
    cases ds with
    | nil => rfl
    | cons d ds => simp [plain d List.mem_cons_self]
  rw [trim, trimStart, kept plain, trimEnd, kept (by simpa using plain), List.reverse_reverse]

namespace Number

theorem Numeral.not_blank {cs : List Char} {n : Int} (read : Numeral cs n) : ∀ c ∈ cs, Text.isBlank c = false := by
  intro c member
  rcases read.mem member with digit | rfl | rfl | rfl
  · exact not_blank_of_isDigit digit
  all_goals decide

end Number

namespace Value

open Vocabulary

theorem readInteger?_of_numeral {cs : List Char} {n : Int} (read : Number.Numeral cs n) :
    readInteger? cs = some n := by
  unfold readInteger?
  split
  · exact Number.readInteger?_eq_some_iff.mpr (Number.numeral_plus_iff.mp read).1
  · exact Number.readInteger?_eq_some_iff.mpr read

theorem readInteger?_trim {cs : List Char} {n : Int} (read : Number.readInteger? cs = some n) :
    readInteger? (Text.trim cs) = some n := by
  have numeral := Number.readInteger?_eq_some_iff.mp read
  rw [Text.trim_of_plain numeral.not_blank, readInteger?_of_numeral numeral]

theorem ofTyped_integer {lexical : String} {n : Int} (read : Number.readInteger? lexical.toList = some n) :
    ofTyped lexical xsdInteger = .integer n := by
  have string : (xsdInteger == xsdString) = false := by decide
  simp [ofTyped, ofTyped?, string, readInteger?_trim read]

theorem ofTerm?_withCanonicalInteger (t : Term) : ofTerm? t.withCanonicalInteger = ofTerm? t := by
  unfold Term.withCanonicalInteger
  split
  · next lexical datatype =>
    split
    · next n found =>
      unfold Term.integer? at found
      split at found
      · next same =>
        subst same
        have canonical : Number.readInteger? (String.ofList (Number.intText n)).toList = some n := by
          rw [String.toList_ofList, Number.readInteger?_intText]
        simp only [Term.typed, ofTerm?, ofTyped_integer canonical, ofTyped_integer found]
      · cases found
    · rfl
  · rfl

end Value

/-! ## Rows read back -/

namespace Solution

theorem get?_insert (s : Solution) (name other : String) (t : Term) :
    (s.insert name t).get? other = if other = name then some t else s.get? other := by
  have differ : ∀ {a b : String}, a ≠ b → (a == b) = false := beq_false_of_ne
  unfold get?
  induction s with
  | nil => by_cases same : other = name <;> simp [insert, List.lookup_cons, same, differ]
  | cons bound s ih =>
    obtain ⟨n, u⟩ := bound
    rw [insert]
    by_cases here : n = name
    · subst here
      by_cases same : other = n <;> simp [List.lookup_cons, same, differ]
    · rw [if_neg here, List.lookup_cons, List.lookup_cons, ih]
      by_cases same : other = n
      · subst same
        simp [here]
      · simp [same, differ]

theorem Alike.insert {s s' : Solution} (alike : s.Alike s') (name : String) {t t' : Term}
    (same : Value.ofTerm? t = Value.ofTerm? t') : (s.insert name t).Alike (s'.insert name t') := by
  intro other
  rw [get?_insert, get?_insert]
  split
  · exact ⟨rfl, same⟩
  · exact alike other

end Solution

namespace Query

def bindCell (s : Solution) : String × Option Term → Solution
  | (name, some t) => s.insert name t
  | (_, none) => s

theorem rowSolution_eq (names : List String) (row : List (Option Term)) :
    rowSolution names row = (names.zip row).foldl bindCell [] := by
  unfold rowSolution
  congr
  funext s cell
  rcases cell with ⟨name, _ | t⟩ <;> rfl

theorem rowSolution_alike (names : List String) (row : List (Option Term)) :
    (rowSolution names (row.map cellBack)).Alike (rowSolution names row) := by
  have fold : ∀ {s s' : Solution}, s.Alike s' →
      Solution.Alike ((names.zip (row.map cellBack)).foldl bindCell s) ((names.zip row).foldl bindCell s') := by
    induction names generalizing row with
    | nil => exact fun alike => alike
    | cons name names ih =>
      cases row with
      | nil => exact fun alike => alike
      | cons cell row =>
        intro s s' alike
        refine ih row ?_
        cases cell with
        | none => exact alike
        | some t => exact alike.insert name (Value.ofTerm?_withCanonicalInteger t)
  rw [rowSolution_eq, rowSolution_eq]
  exact fold fun _ => ⟨rfl, rfl⟩

end Query

end TemplateQuery
