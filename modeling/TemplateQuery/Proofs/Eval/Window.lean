import TemplateQuery.Eval.Text

/-! Parts of a text by position. Positions have 64 bits and the end of a part is clamped to them, but in no text that
ends before the greatest position does this show: a part holds the characters at the positions between its start and
its end, wherever these lie, and a part and what follows it make up what follows its start. -/

set_option autoImplicit false

namespace TemplateQuery.Builtin

variable {text : List Char}

/-- The characters at the positions asked for, counted from one, in the order of the text. -/
def charactersAt (text : List Char) (asked : Int → Prop) [DecidablePred asked] : List Char :=
  ((List.finRange text.length).filter fun i => asked ((i.val : Int) + 1)).map text.get

/-! ## Positions -/

theorem charactersAt_congr {asked other : Int → Prop} [DecidablePred asked] [DecidablePred other]
    (same : ∀ i < text.length, asked (i + 1) ↔ other (i + 1)) : charactersAt text asked = charactersAt text other := by
  unfold charactersAt
  congr 1
  apply List.filter_congr
  intro i _
  simp only [same i.val i.isLt]

theorem zipIdx_eq_finRange (text : List Char) :
    text.zipIdx = (List.finRange text.length).map fun i => (text.get i, i.val) := by
  apply List.ext_getElem <;> simp

theorem window_eq_charactersAt (text : List Char) (start : Int) (stop : Option Int) :
    window text start stop = charactersAt text fun p => start ≤ p ∧ stop.all fun e => p < e := by
  rw [window, zipIdx_eq_finRange, List.filter_map, List.map_map, charactersAt]
  congr 1
  apply List.filter_congr
  intro i _
  simp

/-- An end behind the greatest position is behind the text, as that position is. -/
theorem lt_clamp_iff {p : Int} (first : leastPosition ≤ p) (last : p < greatestPosition) (stop : Int) :
    p < clamp stop ↔ p < stop := by
  unfold clamp
  omega

theorem substring_eq_charactersAt (short : text.length < greatestPosition) (start length : Int) :
    substring text start (some length) = charactersAt text fun p => start ≤ p ∧ p < start + length := by
  rw [substring, window_eq_charactersAt]
  apply charactersAt_congr
  intro i inside
  have first : leastPosition ≤ (i : Int) + 1 := by
    unfold leastPosition
    omega
  simp only [Option.map_some, Option.all_some, decide_eq_true_eq, lt_clamp_iff first (by omega)]

theorem substring_none_eq_charactersAt (text : List Char) (start : Int) :
    substring text start none = charactersAt text fun p => start ≤ p := by
  rw [substring, window_eq_charactersAt]
  apply charactersAt_congr
  simp

/-! ## Slices -/

theorem charactersAt_cons (c : Char) (text : List Char) (asked : Int → Prop) [DecidablePred asked] :
    charactersAt (c :: text) asked = (if asked 1 then [c] else []) ++ charactersAt text fun p => asked (p + 1) := by
  have places : List.finRange (c :: text).length = 0 :: (List.finRange text.length).map Fin.succ := List.finRange_succ
  rw [charactersAt, places, List.filter_cons, List.filter_map, charactersAt]
  by_cases here : asked 1 <;> simp [here, Function.comp_def]

theorem charactersAt_eq_slice (text : List Char) (first last : Nat) :
    charactersAt text (fun p => first < p ∧ p ≤ last) = (text.take last).drop first := by
  induction text generalizing first last with
  | nil => simp [charactersAt]
  | cons c text ih =>
    have here : ((first : Int) < 1 ∧ 1 ≤ (last : Int)) ↔ first = 0 ∧ last ≠ 0 := by omega
    -- Counted from the second character on, both positions are one less.
    have later : charactersAt text (fun p => first < p + 1 ∧ p + 1 ≤ last) =
        (text.take (last - 1)).drop (first - 1) := by
      rw [← ih]
      apply charactersAt_congr
      omega
    rw [charactersAt_cons, later]
    simp only [here]
    cases first <;> cases last <;> simp

theorem substring_eq_slice (short : text.length < greatestPosition) (start length : Int) :
    substring text start (some length) = (text.take (start + length - 1).toNat).drop (start - 1).toNat := by
  rw [substring_eq_charactersAt short, ← charactersAt_eq_slice]
  apply charactersAt_congr
  omega

theorem substring_none_eq_drop (text : List Char) (start : Int) :
    substring text start none = text.drop (start - 1).toNat := by
  have slice := charactersAt_eq_slice text (start - 1).toNat text.length
  rw [List.take_length] at slice
  rw [substring_none_eq_charactersAt, ← slice]
  apply charactersAt_congr
  omega

theorem substring_append (short : text.length < greatestPosition) (start : Int) {length : Int} (forward : 0 ≤ length) :
    substring text start (some length) ++ substring text (start + length) none = substring text start none := by
  obtain ⟨taken, further⟩ : ∃ taken, (start + length - 1).toNat = (start - 1).toNat + taken :=
    Nat.exists_eq_add_of_le (by omega)
  rw [substring_eq_slice short, substring_none_eq_drop, substring_none_eq_drop, further, List.drop_take,
    Nat.add_sub_cancel_left, ← List.drop_drop, List.take_append_drop]

/-- In a text that ends before the greatest position, a part of any start and length is what stands at the positions
from the start on and before their sum, as integers without limits; without a length it goes on to the end. A part of
some length, with what follows it, is the part of the same start without one. -/
theorem substring_exact (text : List Char) (short : text.length < greatestPosition) (start : Int) :
    (∀ length, substring text start (some length) = charactersAt text fun p => start ≤ p ∧ p < start + length) ∧
    substring text start none = charactersAt text (fun p => start ≤ p) ∧
    ∀ length, 0 ≤ length →
      substring text start (some length) ++ substring text (start + length) none = substring text start none :=
  ⟨substring_eq_charactersAt short start, substring_none_eq_charactersAt text start,
    fun _ forward => substring_append short start forward⟩

/-- Ends beyond either limit, and a start in front of the text. -/
theorem substring_exact_hello :
    let text := ['h', 'é', 'l', 'l', 'o']
    text.length < greatestPosition ∧ greatestPosition < 2 + greatestPosition ∧ leastPosition + -1 < leastPosition ∧
    substring text 2 (some greatestPosition) = ['é', 'l', 'l', 'o'] ∧
    substring text leastPosition (some (-1)) = [] ∧
    substring text (-1) none = text ∧
    substring text (-1) (some 4) ++ substring text 3 none = text := by
  intro text
  have short : text.length < greatestPosition := by decide
  have parts (start : Int) := substring_exact text short start
  have whole : substring text (-1) none = text := by
    rw [(parts (-1)).2.1]
    decide
  refine ⟨short, by decide, by decide, ?_, ?_, whole, ((parts (-1)).2.2 4 (by decide)).trans whole⟩
  · rw [(parts 2).1]
    decide
  · rw [(parts leastPosition).1]
    decide

end TemplateQuery.Builtin
