import TemplateQuery.Text.Search

/-! Cuts of a text at a character of some class. The first and the last such character are told by what stands before
and behind them, and there is a cut unless the text has no such character. -/

set_option autoImplicit false

namespace TemplateQuery.Text

variable {p : Char → Bool} {cs before after : List Char} {c : Char}

/-! ## The first character -/

theorem splitAt?_append (clear : ∀ c ∈ before, p c = false) (cs : List Char) :
    splitAt? p (before ++ cs) = (splitAt? p cs).map fun (front, back) => (before ++ front, back) := by
  induction before with
  | nil => simp
  | cons c before ih =>
    have later := ih fun d member => clear d (List.mem_cons_of_mem c member)
    simp only [List.cons_append, splitAt?, clear c List.mem_cons_self, later]
    simp [Function.comp_def]

theorem splitAt?_eq_some_iff :
    splitAt? p cs = some (before, after) ↔
      (∀ c ∈ before, p c = false) ∧ ∃ c, p c = true ∧ cs = before ++ c :: after := by
  constructor
  · intro found
    induction cs generalizing before with
    | nil => cases found
    | cons c cs ih =>
      unfold splitAt? at found
      split at found
      · next mark => cases found; exact ⟨by simp, c, mark, rfl⟩
      · next clear =>
        obtain ⟨⟨front, back⟩, later, same⟩ := Option.map_eq_some_iff.mp found
        cases same
        obtain ⟨others, d, mark, rfl⟩ := ih later
        exact ⟨List.forall_mem_cons.mpr ⟨by simpa using clear, others⟩, d, mark, rfl⟩
  · rintro ⟨clear, c, mark, rfl⟩
    rw [splitAt?_append clear]
    simp [splitAt?, mark]

theorem splitAt?_eq_none_iff : splitAt? p cs = none ↔ ∀ c ∈ cs, p c = false := by
  constructor
  · intro absent
    induction cs with
    | nil => simp
    | cons c cs ih =>
      unfold splitAt? at absent
      split at absent
      · cases absent
      · next clear =>
        rw [Option.map_eq_none_iff] at absent
        exact List.forall_mem_cons.mpr ⟨by simpa using clear, ih absent⟩
  · intro clear
    rw [← List.append_nil cs, splitAt?_append clear]
    rfl

theorem append_of_splitAt? (found : splitAt? p cs = some (before, after)) :
    ∃ c, p c = true ∧ cs = before ++ c :: after :=
  (splitAt?_eq_some_iff.mp found).2

theorem clear_of_splitAt? (found : splitAt? p cs = some (before, after)) : ∀ c ∈ before, p c = false :=
  (splitAt?_eq_some_iff.mp found).1

theorem splitAt?_cut (clear : ∀ d ∈ before, p d = false) (mark : p c = true) :
    splitAt? p (before ++ c :: after) = some (before, after) :=
  splitAt?_eq_some_iff.mpr ⟨clear, c, mark, rfl⟩

/-! ## The last character -/

theorem splitAtLast?_eq_none_iff : splitAtLast? p cs = none ↔ ∀ c ∈ cs, p c = false := by
  induction cs with
  | nil => simp [splitAtLast?]
  | cons c cs ih =>
    rw [splitAtLast?, List.forall_mem_cons, ← ih]
    cases splitAtLast? p cs <;> simp

theorem splitAtLast?_cut (mark : p c = true) (clear : ∀ d ∈ after, p d = false) :
    splitAtLast? p (before ++ c :: after) = some (before, after) := by
  induction before with
  | nil => simp [splitAtLast?, splitAtLast?_eq_none_iff.mpr clear, mark]
  | cons d before ih => simp [splitAtLast?, ih]

theorem append_of_splitAtLast? (found : splitAtLast? p cs = some (before, after)) :
    ∃ c, p c = true ∧ cs = before ++ c :: after := by
  induction cs generalizing before with
  | nil => cases found
  | cons c cs ih =>
    unfold splitAtLast? at found
    split at found
    · next later =>
      cases found
      obtain ⟨d, mark, rfl⟩ := ih later
      exact ⟨d, mark, rfl⟩
    · split at found
      · next mark =>
        cases found
        exact ⟨c, mark, rfl⟩
      · cases found

end TemplateQuery.Text
