import TemplateQuery.Proofs.Eval.Aliases
import TemplateQuery.Proofs.Text.Infix

/-! Texts looked for in other texts. Whether a part occurs, what stands before it and what after it, and whether the
text starts with it, are four questions about one place, that of the first occurrence. -/

set_option autoImplicit false

namespace TemplateQuery

/-! ## The first occurrence -/

namespace Text

variable {needle text before after : List Char}

theorem append_of_splitFirst? (found : splitFirst? needle text = some (before, after)) :
    text = before ++ needle ++ after := by
  fun_induction splitFirst? needle text generalizing before with
  | case1 empty =>
    cases found
    simpa using empty
  | case2 => cases found
  | case3 c text here =>
    cases found
    exact (List.prefix_iff_eq_append.mp (List.isPrefixOf_iff_prefix.mp here)).symm
  | case4 c text elsewhere ih =>
    obtain ⟨cut, later, same⟩ := Option.map_eq_some_iff.mp found
    cases same
    rw [ih later]
    rfl

theorem prefix_of_splitFirst? (found : splitFirst? needle text = some (before, after)) {front back : List Char}
    (other : text = front ++ needle ++ back) : before <+: front := by
  fun_induction splitFirst? needle text generalizing before front with
  | case1 | case3 =>
    cases found
    exact List.nil_prefix
  | case2 => cases found
  | case4 c text elsewhere ih =>
    obtain ⟨cut, later, same⟩ := Option.map_eq_some_iff.mp found
    cases same
    cases front with
    | nil =>
      -- An occurrence at the front would have been the first one.
      rw [List.isPrefixOf_iff_prefix, other] at elsewhere
      exact absurd (List.prefix_append needle back) elsewhere
    | cons d front =>
      obtain ⟨rfl, rest⟩ := List.cons.inj other
      exact List.cons_prefix_cons.mpr ⟨rfl, ih later rest⟩

theorem splitFirst?_eq_none_iff : splitFirst? needle text = none ↔ ¬ needle <:+: text := by
  rw [← contains_iff_infix, contains, Bool.not_eq_true, Option.isSome_eq_false_iff, Option.isNone_iff_eq_none]

theorem isPrefixOf_iff_splitFirst? :
    needle.isPrefixOf text = true ↔ ∃ after, splitFirst? needle text = some ([], after) := by
  constructor
  · intro starts
    cases text with
    | nil =>
      have empty : needle = [] := by simpa using starts
      exact ⟨[], by simp [splitFirst?, empty]⟩
    | cons c text => exact ⟨_, by rw [splitFirst?, if_pos starts]⟩
  · rintro ⟨after, found⟩
    rw [List.isPrefixOf_iff_prefix, append_of_splitFirst? found, List.nil_append]
    exact List.prefix_append needle after

end Text

/-- What the questions about a part of a text are answered with: whether it is found, whether the text starts with it,
and what stands before and after it, in which language. -/
structure Sought (text part : String) (lang : Option String) (found starts : Bool) (before after : String)
    (kept : Option String) : Prop where
  whole : found = true ↔ text = before ++ part ++ after
  occurs : found = true ↔ ∃ front back, text = front ++ part ++ back
  first : found = true → ∀ front back, text = front ++ part ++ back → before.utf8ByteSize ≤ front.utf8ByteSize
  tagged : found = true → kept = lang
  absent : found = false → before = "" ∧ after = "" ∧ kept = none
  starting : starts = true ↔ found = true ∧ before = ""

namespace Sought

variable {text part : List Char} {front back : List Char}

theorem ofList_eq_iff {before after : String} :
    String.ofList text = before ++ String.ofList part ++ after ↔ text = before.toList ++ part ++ after.toList := by
  rw [← String.toList_inj]
  simp only [String.toList_append, String.toList_ofList]

theorem of_some (cut : Text.splitFirst? part text = some (front, back)) (lang : Option String) :
    Sought (String.ofList text) (String.ofList part) lang true (part.isPrefixOf text) (String.ofList front)
      (String.ofList back) lang := by
  have whole : String.ofList text = String.ofList front ++ String.ofList part ++ String.ofList back :=
    ofList_eq_iff.mpr (by simpa using Text.append_of_splitFirst? cut)
  exact {
    whole := iff_of_true rfl whole
    occurs := iff_of_true rfl ⟨_, _, whole⟩
    first := by
      intro _ other rest same
      obtain ⟨more, later⟩ := Text.prefix_of_splitFirst? cut (ofList_eq_iff.mp same)
      have longer : other = String.ofList front ++ String.ofList more := by
        rw [← String.ofList_append, later, String.ofList_toList]
      rw [longer, String.utf8ByteSize_append]
      exact Nat.le_add_right _ _
    tagged := fun _ => rfl
    absent := by simp
    starting := by
      rw [Text.isPrefixOf_iff_splitFirst?, cut]
      simp }

theorem of_none (uncut : Text.splitFirst? part text = none) (lang : Option String) :
    Sought (String.ofList text) (String.ofList part) lang false (part.isPrefixOf text) "" "" none := by
  have nowhere : ∀ before after : String, String.ofList text ≠ before ++ String.ofList part ++ after :=
    fun _ _ whole => Text.splitFirst?_eq_none_iff.mp uncut ⟨_, _, (ofList_eq_iff.mp whole).symm⟩
  exact {
    whole := iff_of_false Bool.false_ne_true (nowhere "" "")
    occurs := iff_of_false Bool.false_ne_true fun ⟨before, after, whole⟩ => nowhere before after whole
    first := by simp
    tagged := by simp
    absent := fun _ => ⟨rfl, rfl, rfl⟩
    starting := by
      rw [Text.isPrefixOf_iff_splitFirst?, uncut]
      simp }

theorem exists_of_cut (a b : StringArg) : ∃ before after kept,
    Builtin.before a b = .string before kept ∧ Builtin.after a b = .string after kept ∧
    Sought (String.ofList a.text) (String.ofList b.text) a.lang (Text.contains b.text a.text)
      (b.text.isPrefixOf a.text) before after kept := by
  unfold Builtin.before Builtin.after Text.contains
  cases cut : Text.splitFirst? b.text a.text with
  | none => exact ⟨_, _, _, rfl, rfl, of_none cut a.lang⟩
  | some pieces => exact ⟨_, _, _, rfl, rfl, of_some cut a.lang⟩

end Sought

/-! ## Answers to two strings -/

namespace Eval

variable {x y : Eval Value} {draws between draws' : Draws} {a b : String} {lang tag : Option String}

theorem string_run (f : Function) (gives : x draws = some (.ok (.string a lang), draws')) :
    string f x draws = some (.ok ⟨a.toList, lang⟩, draws') := bind_of_ok gives _

theorem compatibleStrings_run (f : Function) (first : x draws = some (.ok (.string a lang), between))
    (second : y between = some (.ok (.string b tag), draws')) (compatible : tag = none ∨ tag = lang) :
    compatibleStrings f x y draws = some (.ok (⟨a.toList, lang⟩, ⟨b.toList, tag⟩), draws') := by
  have together : StringArg.compatible ⟨a.toList, lang⟩ ⟨b.toList, tag⟩ = true := by
    rcases compatible with rfl | rfl <;> simp [StringArg.compatible]
  rw [compatibleStrings, bind_of_ok (string_run f first), bind_of_ok (string_run f second), if_pos together]
  rfl

end Eval

namespace Expression

variable {c : Context} {x y : Expression} {draws between draws' : Draws} {a b : String} {lang tag : Option String}

theorem eval_cutText (first : x.eval c draws = some (.ok (.string a lang), between))
    (second : y.eval c between = some (.ok (.string b tag), draws')) (compatible : tag = none ∨ tag = lang)
    {f : Function} (other : f ≠ .bound) {g : StringArg → StringArg → Value}
    (cuts : ∀ args, Builtin.call c f args = Builtin.cutText f g args) :
    (Expression.call f [x, y]).eval c draws = some (.ok (g ⟨a.toList, lang⟩ ⟨b.toList, tag⟩), draws') := by
  rw [eval_call fun _ bound => absurd bound other, cuts]
  exact Eval.bind_of_ok (Eval.compatibleStrings_run f first second compatible) _

end Expression

/-- One string sought in another one that it goes with. It is found exactly when what stands before it, the string
itself and what stands after it make up the other; this is its first occurrence there, the pieces keep the language, and
without one both are empty. The text starts with it when nothing stands before it. -/
theorem Expression.cut_at_first (c : Context) (x y : Expression) (draws between draws' : Draws) (a b : String)
    (lang tag : Option String) (first : x.eval c draws = some (.ok (.string a lang), between))
    (second : y.eval c between = some (.ok (.string b tag), draws')) (compatible : tag = none ∨ tag = lang) :
    let answer (f : Function) (v : Value) := (Expression.call f [x, y]).eval c draws = some (.ok v, draws')
    ∃ found starts before after kept, answer .contains (.bool found) ∧ answer .strStarts (.bool starts) ∧
      answer .strBefore (.string before kept) ∧ answer .strAfter (.string after kept) ∧
      Sought a b lang found starts before after kept := by
  intro answer
  have answers {f : Function} (other : f ≠ .bound) {g : StringArg → StringArg → Value}
      (cuts : ∀ args, Builtin.call c f args = Builtin.cutText f g args) :
      answer f (g ⟨a.toList, lang⟩ ⟨b.toList, tag⟩) := eval_cutText first second compatible other cuts
  obtain ⟨before, after, kept, cutBefore, cutAfter, sought⟩ := Sought.exists_of_cut ⟨a.toList, lang⟩ ⟨b.toList, tag⟩
  rw [String.ofList_toList, String.ofList_toList] at sought
  refine ⟨_, _, before, after, kept, ?_, ?_, ?_, ?_, sought⟩
  · exact answers (g := fun s t => .bool (Text.contains t.text s.text)) (by decide) fun _ => rfl
  · exact answers (g := fun s t => .bool (t.text.isPrefixOf s.text)) (by decide) fun _ => rfl
  · rw [← cutBefore]
    exact answers (by decide) fun _ => rfl
  · rw [← cutAfter]
    exact answers (by decide) fun _ => rfl

def refrain : Expression := .term (.literal "éabababa" (.lang "fr"))

def aba : Expression := .term (.plain "aba")

theorem Expression.cut_at_first_refrain :
    refrain.eval newYear {} = some (.ok (.string "éabababa" (some "fr")), {}) ∧
    aba.eval newYear {} = some (.ok (.string "aba" none), {}) ∧
    (Expression.call .contains [refrain, aba]).eval newYear {} = some (.ok (.bool true), {}) ∧
    (Expression.call .strStarts [refrain, aba]).eval newYear {} = some (.ok (.bool false), {}) ∧
    (Expression.call .strBefore [refrain, aba]).eval newYear {} = some (.ok (.string "é" (some "fr")), {}) ∧
    (Expression.call .strAfter [refrain, aba]).eval newYear {} = some (.ok (.string "baba" (some "fr")), {}) ∧
    Sought "éabababa" "aba" (some "fr") true false "é" "baba" (some "fr") := by
  have first : refrain.eval newYear {} = some (.ok (.string "éabababa" (some "fr")), {}) := by rfl
  have second : aba.eval newYear {} = some (.ok (.string "aba" none), {}) := by rfl
  obtain ⟨found, starts, before, after, kept, contained, started, cutBefore, cutAfter, sought⟩ :=
    cut_at_first newYear refrain aba {} {} {} _ _ _ _ first second (.inl rfl)
  have occurs : (Expression.call .contains [refrain, aba]).eval newYear {} = some (.ok (.bool true), {}) := by rfl
  have begins : (Expression.call .strStarts [refrain, aba]).eval newYear {} = some (.ok (.bool false), {}) := by rfl
  have front : (Expression.call .strBefore [refrain, aba]).eval newYear {} =
      some (.ok (.string "é" (some "fr")), {}) := by rfl
  have back : (Expression.call .strAfter [refrain, aba]).eval newYear {} =
      some (.ok (.string "baba" (some "fr")), {}) := by rfl
  cases contained.symm.trans occurs
  cases started.symm.trans begins
  cases cutBefore.symm.trans front
  cases cutAfter.symm.trans back
  exact ⟨first, second, occurs, begins, front, back, sought⟩

end TemplateQuery
