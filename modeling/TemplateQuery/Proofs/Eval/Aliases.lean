import TemplateQuery.Proofs.Eval.Produced
import TemplateQuery.Query

/-! Values bound to names of columns. A column computed before is read back from its term, and stands for the value of
its expression in all that follows; what does not come back is told apart exactly. -/

set_option autoImplicit false

namespace TemplateQuery

open Vocabulary

namespace Value

/-- What a column does not keep: a single-precision number, of which only the text was kept and which is read as a
double; the present, if it is no date that can be written; and a decimal without a text, with which the query ends. -/
def Lost (now : DateTime) : Value → Prop
  | .typed lexical datatype => datatype = xsdFloat ∧ ∃ s : Single, lexical = String.ofList s.text
  | .dateTime t => t = now ∧ ¬ t.IsWritable
  | .decimal d => d.text = none
  | _ => False

theorem survives_iff {now : DateTime} {v : Value} (proper : v.Proper now) : v.Survives ↔ ¬ v.Lost now := by
  cases v with
  | decimal d => exact Iff.rfl
  | dateTime t =>
    constructor
    · exact fun writable lost => lost.2 writable
    · intro kept
      rcases proper with present | writable
      · by_contra lost
        exact kept ⟨present, lost⟩
      · exact writable
  | typed lexical datatype =>
    constructor
    · rintro unread ⟨rfl, s, rfl⟩
      obtain ⟨d, read⟩ := ofTyped?_float_text s
      rw [Survives, read] at unread
      cases unread
    · exact fun kept => proper.resolve_right kept
  | _ => exact iff_of_true trivial id

end Value

theorem Query.projectFrom_computed {now : DateTime} {base : Option String} {row : Solution} {e : Expression}
    {draws draws' : Draws} {v : Value} (unlabelled : draws.labels = [])
    (gives : e.eval ⟨row, now, base⟩ draws = some (.ok v, draws')) (name : String) (out : Solution)
    (rest : List Column) :
    projectFrom now base row out draws.next (.computed e name :: rest) =
      v.toTerm.bind fun t => projectFrom now base (row.insert name t) (out.insert name t) draws'.next rest := by
  have computed : computeTerm ⟨row, now, base⟩ e draws.next = v.toTerm.map fun t => (some t, draws'.next) := by
    obtain ⟨next, labels⟩ := draws
    cases unlabelled
    rw [computeTerm, gives]
  rw [projectFrom, computed]
  cases v.toTerm <;> rfl

theorem Expression.eval_var_insert {t : Term} {w : Value} (read : Value.ofTerm? t = some w) (row : Solution)
    (now : DateTime) (base : Option String) (name : String) (draws : Draws) :
    (Expression.var name).eval ⟨row.insert name t, now, base⟩ draws = some (.ok w, draws) := by
  rw [Expression.eval, Solution.get?_insert, if_pos rfl, Option.bind_some, read]
  rfl

def newYear : Context := ⟨[], ⟨⟨2024, 1, 1, by decide⟩, ⟨0, 0, 0, 0, by decide⟩, some 0⟩, none⟩

def doubled : Expression :=
  .binary (.arithmetic .mul) (.term (.typed "1.50" xsdDecimal)) (.term (.typed "2" xsdInteger))

def boundless : Expression := .cast xsdFloat (.term (.literal "INF" .simple))

end TemplateQuery
