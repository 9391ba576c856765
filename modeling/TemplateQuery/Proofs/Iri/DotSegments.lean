import TemplateQuery.Proofs.Iri.Absolute

/-! Resolution leaves an absolute reference as it is exactly when its path has no dot segments. Removing dot segments
makes a path shorter wherever there is one. -/

set_option autoImplicit false

namespace TemplateQuery.Iri

open Text

/-! ## Components put together again -/

theorem cutAt_join (mark : Char) (cs : List Char) :
    ((cutAt mark cs).1 ++ match (cutAt mark cs).2 with | some after => mark :: after | none => []) = cs := by
  unfold cutAt
  split
  · next before after found =>
    obtain ⟨c, same, rfl⟩ := append_of_splitAt? found
    rw [eq_of_beq same]
  · simp

theorem cutScheme_join (cs : List Char) :
    (match (cutScheme cs).1 with | some s => s ++ [':'] | none => []) ++ (cutScheme cs).2 = cs := by
  fun_cases cutScheme cs with
  | case1 before after found valid =>
    obtain ⟨c, same, whole⟩ := append_of_splitAt? found
    simp [whole, eq_of_beq same]
  | case2 | case3 => rfl

theorem cutAuthority_join (cs : List Char) :
    (match (cutAuthority cs).1 with | some a => '/' :: '/' :: a | none => []) ++ (cutAuthority cs).2 = cs := by
  fun_cases cutAuthority cs with
  | case1 after => simp [List.takeWhile_append_dropWhile]
  | case2 => rfl

theorem recompose_split (cs : List Char) : (split cs).recompose = cs := by
  have scheme := cutScheme_join (cutAt '?' (cutAt '#' cs).1).1
  rw [← cutAuthority_join (cutScheme (cutAt '?' (cutAt '#' cs).1).1).2, ← List.append_assoc] at scheme
  calc (split cs).recompose = _ ++ _ ++ _ := rfl
    _ = cs := by
      have query := cutAt_join '?' (cutAt '#' cs).1
      rw [← scheme] at query
      refine Eq.trans ?_ (cutAt_join '#' cs)
      rw [← query]
      rfl

theorem recompose_path (c : Components) (path : List Char) :
    ({ c with path := path }).recompose = c.recompose ↔ path = c.path := by
  simp [Components.recompose, List.append_assoc]

/-! ## Segments -/

def slashed (segments : List (List Char)) : List Char := segments.flatMap ('/' :: ·)

theorem length_slashed_append (front back : List (List Char)) :
    (slashed (front ++ back)).length = (slashed front).length + (slashed back).length := by
  rw [slashed, List.flatMap_append, List.length_append]
  rfl

theorem slashed_segments (path : List Char) : slashed (segments path) = '/' :: path := by
  induction path with
  | nil => rfl
  | cons c path ih =>
    unfold segments
    split
    · next slash => subst slash; simp [slashed, ← ih]
    · split
      · next none => rw [none] at ih; cases ih
      · next s rest same =>
        rw [same] at ih
        simp only [slashed, List.flatMap_cons, List.cons_append, List.cons.injEq, true_and] at ih ⊢
        exact ih

theorem climb_plain {rest : List (List Char)} (plain : ∀ s ∈ rest, isDotSegment s = false)
    (pieces : List (List Char)) : (climb pieces rest).reverse.flatten = pieces.reverse.flatten ++ slashed rest := by
  induction rest generalizing pieces with
  | nil => simp [climb, slashed]
  | cons s rest ih =>
    have first : s ≠ ['.'] ∧ s ≠ ['.', '.'] := by simpa [isDotSegment] using plain s List.mem_cons_self
    rw [climb, if_neg first.1, if_neg first.2, ih fun d member => plain d (List.mem_cons_of_mem s member)]
    simp [slashed]

theorem climb_shorter (pieces rest : List (List Char)) :
    (climb pieces rest).flatten.length ≤ pieces.flatten.length + (slashed rest).length ∧
      ((climb pieces rest).flatten.length = pieces.flatten.length + (slashed rest).length →
        ∀ s ∈ rest, isDotSegment s = false) := by
  have shrink : ∀ pieces : List (List Char), pieces.tail.flatten.length ≤ pieces.flatten.length := by
    intro pieces
    cases pieces <;> simp
  -- Only an ordinary segment is written in full; a dot segment leaves a slash at most.
  fun_induction climb pieces rest with
  | case1 pieces => simp [slashed]
  | case2 pieces rest last =>
    rw [List.isEmpty_iff.mp last]
    simp [slashed]
  | case3 pieces rest more ih =>
    simp only [slashed, List.flatMap_cons, List.length_append, List.length_cons, List.length_nil] at ih ⊢
    omega
  | case4 pieces rest last =>
    have := shrink pieces
    rw [List.isEmpty_iff.mp last]
    simp [slashed] at this ⊢
    omega
  | case5 pieces rest more _ ih =>
    have := shrink pieces
    simp only [slashed, List.flatMap_cons, List.length_append, List.length_cons, List.length_nil] at ih ⊢
    omega
  | case6 pieces s rest single double ih =>
    simp only [slashed, List.flatMap_cons, List.flatten_cons, List.length_append, List.length_cons] at ih ⊢
    refine ⟨by omega, fun equal => ?_⟩
    intro d member
    rcases List.mem_cons.mp member with rfl | later
    · simp [isDotSegment, single, double]
    · exact ih.2 (by omega) d later

theorem removeDotSegments_eq_self_iff {path : List Char} :
    removeDotSegments path = path ↔ ∀ s ∈ segments path, isDotSegment s = false := by
  have whole := slashed_segments path
  cases parts : segments path with
  | nil => rw [parts] at whole; cases whole
  | cons first rest =>
    rw [parts] at whole
    have size : (slashed rest).length + first.length = path.length := by
      have := congrArg List.length whole
      simp [slashed] at this ⊢
      omega
    cases dot : isDotSegment first with
    | true =>
      -- A dot segment in front is dropped, and its slash with it.
      refine iff_of_false (fun same => ?_) fun plain => by simp [plain first] at dot
      obtain ⟨dropped, back⟩ := List.dropWhile_suffix isDotSegment (l := rest)
      have shorter := length_slashed_append dropped (rest.dropWhile isDotSegment)
      rw [back] at shorter
      have some : 0 < first.length := by
        cases first with
        | nil => cases dot
        | cons => simp
      have total := congrArg List.length same
      unfold removeDotSegments at total
      rw [parts, List.dropWhile_cons_of_pos dot] at total
      cases left : rest.dropWhile isDotSegment with
      | nil => simp [left] at total; omega
      | cons next more =>
        rw [left] at total shorter
        have bound := (climb_shorter [next] more).1
        simp [slashed] at total bound shorter size
        omega
    | false =>
      have kept : removeDotSegments path = (climb [first] rest).reverse.flatten := by
        rw [removeDotSegments, parts, List.dropWhile_cons_of_neg (by simp [dot])]
      rw [kept]
      constructor
      · intro same
        have total := congrArg List.length same
        have plain := (climb_shorter [first] rest).2 (by simp at total ⊢; omega)
        exact List.forall_mem_cons.mpr ⟨dot, plain⟩
      · intro plain
        rw [climb_plain (fun s member => plain s (List.mem_cons_of_mem first member))]
        simpa [slashed] using whole

theorem resolve_eq_self_iff (base : String) {reference : String} (absolute : isAbsolute reference = true) :
    resolve base reference = reference ↔ ∀ s ∈ segments (split reference.toList).path, isDotSegment s = false := by
  have direct : target (split base.toList) (split reference.toList) =
      { split reference.toList with path := removeDotSegments (split reference.toList).path } := if_pos absolute
  rw [← removeDotSegments_eq_self_iff, ← recompose_path (split reference.toList), resolve, direct,
    recompose_split, ← String.toList_inj, String.toList_ofList]

end TemplateQuery.Iri
