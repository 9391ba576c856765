import Mathlib.Algebra.BigOperators.Group.List.Basic
import Mathlib.Data.List.Induction
import Mathlib.Logic.ExistsUnique
import TemplateQuery.Template.Prepare

/-! The rows of a template are the cross product of the values of its parameters. A row number is read in the mixed
radix of the numbers of values, the first parameter as the lowest place, and each digit picks the value of its
parameter. Main statement: `rows_cross_product`. -/

set_option autoImplicit false

namespace TemplateQuery.Template

/-! ## Numbers in mixed radix -/

def weight (radices : List Nat) (j : Nat) : Nat := (radices.take j).prod

theorem weight_append {radices : List Nat} {j : Nat} (inside : j ≤ radices.length) (last : List Nat) :
    weight (radices ++ last) j = weight radices j := by
  rw [weight, List.take_append_of_le_length inside, weight]

theorem weight_length (radices last : List Nat) : weight (radices ++ last) radices.length = radices.prod := by
  simp [weight]

theorem mod_prod_digit (radices : List Nat) {j : Nat} (inside : j < radices.length) (i : Nat) :
    i % radices.prod / weight radices j % radices[j] = i / weight radices j % radices[j] := by
  have whole : radices.prod = weight radices j * (radices[j] * (radices.drop (j + 1)).prod) := by
    calc radices.prod = (radices.take j ++ radices[j] :: radices.drop (j + 1)).prod := by
          rw [← List.drop_eq_getElem_cons inside, List.take_append_drop]
      _ = _ := by rw [List.prod_append, List.prod_cons, weight]
  rw [whole, Nat.mod_mul_right_div_self, Nat.mod_mul_right_mod]

def Spells (radices : List Nat) (choice : Nat → Nat) (i : Nat) : Prop :=
  ∀ j (inside : j < radices.length), i / weight radices j % radices[j] = choice j

theorem spells_append_singleton {radices : List Nat} {last i : Nat} {choice : Nat → Nat} :
    Spells (radices ++ [last]) choice i ↔
      Spells radices choice (i % radices.prod) ∧ i / radices.prod % last = choice radices.length := by
  constructor
  · intro spells
    constructor
    · intro j inside
      have digit := spells j (by simp; omega)
      rwa [weight_append (by omega), List.getElem_append_left inside, ← mod_prod_digit radices inside] at digit
    · have digit := spells radices.length (by simp)
      rwa [weight_length, List.getElem_concat_length rfl] at digit
  · rintro ⟨low, high⟩ j inside
    rw [List.length_append, List.length_singleton] at inside
    by_cases lower : j < radices.length
    · rw [weight_append (by omega), List.getElem_append_left lower, ← mod_prod_digit radices lower]
      exact low j lower
    · obtain rfl : j = radices.length := by omega
      rw [weight_length, List.getElem_concat_length rfl]
      exact high

theorem existsUnique_spells {radices : List Nat} {choice : Nat → Nat}
    (below : ∀ j (inside : j < radices.length), choice j < radices[j]) :
    ∃! i, i < radices.prod ∧ Spells radices choice i := by
  induction radices using List.reverseRecOn with
  | nil => exact ⟨0, ⟨by simp, by simp [Spells]⟩, fun i found => by simpa using found.1⟩
  | append_singleton radices last ih =>
    have top : choice radices.length < last := by simpa using below radices.length (by simp)
    obtain ⟨low, ⟨small, spells⟩, unique⟩ := ih fun j inside => by
      have digit := below j (by simp; omega)
      rwa [List.getElem_append_left inside] at digit
    have remainder : (low + radices.prod * choice radices.length) % radices.prod = low := by
      rw [Nat.add_mul_mod_self_left, Nat.mod_eq_of_lt small]
    have quotient : (low + radices.prod * choice radices.length) / radices.prod = choice radices.length := by
      rw [Nat.add_mul_div_left _ _ (by omega), Nat.div_eq_of_lt small, Nat.zero_add]
    have whole : (radices ++ [last]).prod = radices.prod * last := by simp
    refine ⟨low + radices.prod * choice radices.length, ⟨?_, ?_⟩, ?_⟩
    · calc low + radices.prod * choice radices.length < radices.prod + radices.prod * choice radices.length := by omega
        _ = radices.prod * (choice radices.length + 1) := by rw [Nat.mul_succ, Nat.add_comm]
        _ ≤ radices.prod * last := Nat.mul_le_mul_left _ top
        _ = (radices ++ [last]).prod := whole.symm
    · rw [spells_append_singleton, remainder, quotient]
      exact ⟨spells, Nat.mod_eq_of_lt top⟩
    · rintro i ⟨inside, digits⟩
      rw [whole] at inside
      obtain ⟨lower, upper⟩ := spells_append_singleton.mp digits
      rw [Nat.mod_eq_of_lt (Nat.div_lt_of_lt_mul inside)] at upper
      have same := unique (i % radices.prod) ⟨Nat.mod_lt _ (by omega), lower⟩
      rw [← same, ← upper, Nat.mod_add_div]

/-! ## Rows of a product -/

def product (columns : List (List (Option Term))) : List Row := columns.foldl extend [[]]

theorem product_append_singleton (columns : List (List (Option Term))) (last : List (Option Term)) :
    product (columns ++ [last]) = extend (product columns) last := by
  simp [product]

theorem length_extend (rows : List Row) (cells : List (Option Term)) :
    (extend rows cells).length = rows.length * cells.length := by
  induction cells with
  | nil => rfl
  | cons cell cells ih =>
    rw [extend, List.flatMap_cons, List.length_append, ← extend, ih, List.length_map, List.length_cons, Nat.mul_succ,
      Nat.add_comm]

theorem length_product (columns : List (List (Option Term))) :
    (product columns).length = (columns.map List.length).prod := by
  induction columns using List.reverseRecOn with
  | nil => rfl
  | append_singleton columns last ih => simp [product_append_singleton, length_extend, ih]

/-- The rows come round again with each value of the new column. -/
theorem getElem?_extend (rows : List Row) (cells : List (Option Term)) (i : Nat) :
    (extend rows cells)[i]? =
      rows[i % rows.length]?.bind fun row => cells[i / rows.length]?.map fun cell => row ++ [cell] := by
  induction cells generalizing i with
  | nil => simp [extend]
  | cons cell cells ih =>
    have first : extend rows (cell :: cells) = rows.map (· ++ [cell]) ++ extend rows cells := by simp [extend]
    by_cases inside : i < rows.length
    · rw [first, List.getElem?_append_left (by simpa using inside), Nat.mod_eq_of_lt inside, Nat.div_eq_of_lt inside]
      simp [inside]
    · rw [first, List.getElem?_append_right (by simpa using inside), List.length_map, ih]
      cases rows with
      | nil => simp
      | cons row rows =>
        have later : (row :: rows).length ≤ i := by omega
        rw [Nat.mod_eq_sub_mod later, Nat.div_eq_sub_div (by simp) later, List.getElem?_cons_succ]

theorem getElem?_of_product {columns : List (List (Option Term))} {choice : Nat → Nat} {i : Nat} {row : Row}
    (found : (product columns)[i]? = some row) (spells : Spells (columns.map List.length) choice i) :
    row.length = columns.length ∧ ∀ j (inside : j < columns.length), row[j]? = columns[j][choice j]? := by
  induction columns using List.reverseRecOn generalizing i row with
  | nil =>
    have single : row = [] := by simpa [product] using List.mem_of_getElem? found
    exact ⟨by simp [single], by simp⟩
  | append_singleton columns last ih =>
    rw [product_append_singleton, getElem?_extend, length_product] at found
    rw [List.map_append, List.map_singleton, spells_append_singleton, List.length_map] at spells
    obtain ⟨shorter, low, found⟩ := Option.bind_eq_some_iff.mp found
    obtain ⟨cell, high, rfl⟩ := Option.map_eq_some_iff.mp found
    obtain ⟨width, each⟩ := ih low spells.1
    have top : i / (columns.map List.length).prod = choice columns.length := by
      rw [← spells.2, Nat.mod_eq_of_lt (List.getElem?_eq_some_iff.mp high).1]
    refine ⟨by simp [width], fun j inside => ?_⟩
    by_cases lower : j < columns.length
    · rw [List.getElem?_append_left (by omega), List.getElem_append_left lower]
      exact each j lower
    · obtain rfl : j = columns.length := by simp at inside; omega
      rw [List.getElem?_append_right (by omega), List.getElem_concat_length rfl, ← top, high]
      simp [width]

/-! ## The columns of a template -/

def texts (supplied : Parameters) (name : String) : List String := (supplied.lookup name).getD []

/-- What a parameter stands for: the terms of its texts, or its sample when there are none. -/
def values (q : Template) (supplied : Parameters) (binding : String × Option Term) : List (Option Term) :=
  if (texts supplied binding.1).isEmpty then [binding.2] else (texts supplied binding.1).map (q.resolve? binding.1)

def unreadableFor? (q : Template) (supplied : Parameters) (name : String) : Option String :=
  (texts supplied name).find? fun text => (q.resolve? name text).isNone

def unreadable? (q : Template) (supplied : Parameters) : Option String := q.names.findSome? (q.unreadableFor? supplied)

variable {q : Template} {supplied : Parameters}

theorem mapM_resolve (name : String) (todo : List String) :
    (todo.mapM fun text =>
      match q.resolve? name text with
      | some t => (.ok (some t) : Except PrepareError (Option Term))
      | none => .error (.unreadable text)) =
      match todo.find? fun text => (q.resolve? name text).isNone with
      | some text => .error (.unreadable text)
      | none => .ok (todo.map (q.resolve? name)) := by
  induction todo with
  | nil => rfl
  | cons text todo ih =>
    rw [List.mapM_cons, ih, List.find?_cons]
    cases found : q.resolve? name text with
    | none => rfl
    | some t =>
      simp only [Option.isNone_some, List.map_cons, found]
      cases todo.find? fun text => (q.resolve? name text).isNone with
      | none => rfl
      | some other => rfl

/-- A column fails at its first unreadable text, and otherwise holds the values of its parameter. -/
theorem column_eq (name : String) (sample : Option Term) :
    q.column supplied name sample =
      match q.unreadableFor? supplied name with
      | some text => .error (.unreadable text)
      | none => .ok (q.values supplied (name, sample)) := by
  unfold column unreadableFor? values texts
  cases given : supplied.lookup name with
  | none => rfl
  | some todo =>
    cases todo with
    | nil => rfl
    | cons text todo => exact mapM_resolve name (text :: todo)

theorem foldlM_columns (todo : List (String × Option Term)) (start : List Row) :
    todo.foldlM (fun rows binding => return extend rows (← q.column supplied binding.1 binding.2)) start =
      match (todo.map Prod.fst).findSome? (q.unreadableFor? supplied) with
      | some text => .error (.unreadable text)
      | none => .ok ((todo.map (q.values supplied)).foldl extend start) := by
  induction todo generalizing start with
  | nil => rfl
  | cons binding todo ih =>
    rw [List.foldlM_cons, column_eq, List.map_cons, List.findSome?_cons]
    cases unread : q.unreadableFor? supplied binding.1 with
    | some text => rfl
    | none => exact ih (extend start (q.values supplied binding))

theorem rows_eq (q : Template) (supplied : Parameters) :
    q.rows supplied =
      match q.unreadable? supplied with
      | some text => .error (.unreadable text)
      | none => .ok (product (q.bindings.map (q.values supplied))) :=
  foldlM_columns q.bindings [[]]

theorem rows_congr {other : Parameters} (agree : ∀ name ∈ q.names, other.lookup name = supplied.lookup name) :
    q.rows other = q.rows supplied := by
  have same : ∀ name ∈ q.names, texts other name = texts supplied name := fun name member => by
    rw [texts, agree name member, texts]
  have unread : q.unreadable? other = q.unreadable? supplied := by
    rw [unreadable?, unreadable?, ← List.head?_filterMap, ← List.head?_filterMap]
    congr 1
    apply List.filterMap_congr
    intro name member
    rw [unreadableFor?, same name member, unreadableFor?]
  have columns : q.bindings.map (q.values other) = q.bindings.map (q.values supplied) := by
    apply List.map_congr_left
    intro binding member
    rw [values, same binding.1 (List.mem_map_of_mem member), values]
  rw [rows_eq, rows_eq, unread, columns]

/-- The first text that writes no term is the error. Without one there is a row for each way to choose a value in every
column: row `i` shows in column `j` the value whose position is the digit `j` of `i`, the first column being the lowest
place, and each choice of positions is made by one row. Parameters that are not declared change nothing. -/
theorem rows_cross_product (q : Template) (supplied : Parameters) :
    (∀ text, q.unreadable? supplied = some text → q.rows supplied = .error (.unreadable text)) ∧
    (q.unreadable? supplied = none →
      let columns := q.bindings.map (q.values supplied)
      let digit (i j : Nat) (_ : j < columns.length) :=
        i / ((columns.take j).map List.length).prod % columns[j].length
      ∃ rows, q.rows supplied = .ok rows ∧ rows.length = (columns.map List.length).prod ∧
        (∀ i (_ : i < rows.length), rows[i].length = columns.length ∧
          ∀ j (declared : j < columns.length), rows[i][j]? = columns[j][digit i j declared]?) ∧
        ∀ choice : Nat → Nat, (∀ j (_ : j < columns.length), choice j < columns[j].length) →
          ∃! i, i < rows.length ∧ ∀ j (declared : j < columns.length), digit i j declared = choice j) ∧
    ∀ other : Parameters, (∀ name ∈ q.names, other.lookup name = supplied.lookup name) →
      q.rows other = q.rows supplied := by
  refine ⟨fun text unread => by rw [rows_eq, unread], ?_, fun other => rows_congr⟩
  intro readable columns digit
  have spells : ∀ {choice : Nat → Nat} {i : Nat}, Spells (columns.map List.length) choice i ↔
      ∀ j (declared : j < columns.length), digit i j declared = choice j := by
    intro choice i
    simp only [Spells, weight, List.length_map, List.getElem_map, digit, List.map_take]
  refine ⟨product columns, by rw [rows_eq, readable], length_product columns, ?_, ?_⟩
  · intro i inside
    -- The row makes the choice that its own digits spell.
    let choice (j : Nat) : Nat := if declared : j < columns.length then digit i j declared else 0
    have own : ∀ j (declared : j < columns.length), digit i j declared = choice j := fun j declared =>
      (dif_pos declared).symm
    obtain ⟨width, cells⟩ := getElem?_of_product (List.getElem?_eq_getElem inside) (spells.mpr own)
    exact ⟨width, fun j declared => by rw [cells j declared, own]⟩
  · intro choice below
    have unique : ∃! i, i < (columns.map List.length).prod ∧ Spells (columns.map List.length) choice i :=
      existsUnique_spells (by simpa using below)
    simpa only [length_product, spells] using unique

/-- Two parameters with two values each. A text for a third name is not looked at, and of two that write no term the
first is the error. -/
theorem rows_cross_product_pair :
    let q : Template := { text := "SELECT * \x7b\x7d", systemId := "p:", bindings := [("a", none), ("b", none)] }
    let supplied : Parameters := [("a", ["1", "2"]), ("b", ["\"x\"", "\"y\""])]
    let row (a b : String) : Row := [some (.typed a Vocabulary.xsdInteger), some (.plain b)]
    q.rows supplied = .ok [row "1" "x", row "2" "x", row "1" "y", row "2" "y"] ∧
      (∃ rows, q.rows supplied = .ok rows ∧ rows.length = 4 ∧ ∀ i (_ : i < rows.length),
        rows[i][1]? = [some (Term.plain "x"), some (Term.plain "y")][i / 2 % 2]?) ∧
      q.rows (("c", ["%"]) :: supplied) = q.rows supplied ∧
      q.rows [("b", ["%%"]), ("a", ["1", "%"])] = .error (.unreadable "%") := by
  intro q supplied row
  have columns : q.bindings.map (q.values supplied) =
      [[some (.typed "1" Vocabulary.xsdInteger), some (.typed "2" Vocabulary.xsdInteger)],
        [some (.plain "x"), some (.plain "y")]] := by decide +kernel
  obtain ⟨-, product, undeclared⟩ := rows_cross_product q supplied
  simp only [columns] at product
  obtain ⟨rows, ran, count, cells, -⟩ := product (by decide +kernel)
  refine ⟨by decide +kernel, ⟨rows, ran, count, fun i inside => ?_⟩, undeclared _ (by decide), ?_⟩
  · exact (cells i inside).2 1 (by simp)
  · exact (rows_cross_product q _).1 "%" (by decide +kernel)

end TemplateQuery.Template
