import Mathlib.Computability.StateTransition
import TemplateQuery.Proofs.Iri.Resolution

/-! Dot segments removed by rewriting. A path is taken from the front, rule by rule, while another one is written, and a
`..` takes back the segment written last. On every path this ends, with the path that `removeDotSegments` gives, and
what it gives are exactly the paths that it leaves as they are. -/

set_option autoImplicit false

namespace TemplateQuery.Iri

open Text StateTransition

structure Rewriting where
  input : List Char
  output : List Char
  deriving DecidableEq, Repr

namespace Rewriting

def withoutLast (path : List Char) : List Char := (splitAtLast? (· == '/') path).elim [] Prod.fst

/-- The first rule that applies. Dots in front have nothing to refer to; `.` behind a slash stays where it is and `..`
takes the last segment back; any other segment is written, with the slash in front of it. -/
def step : Rewriting → Option Rewriting
  | ⟨[], _⟩ => none
  | ⟨'.' :: '.' :: '/' :: rest, output⟩ => some ⟨rest, output⟩
  | ⟨'.' :: '/' :: rest, output⟩ => some ⟨rest, output⟩
  | ⟨'/' :: '.' :: '/' :: rest, output⟩ => some ⟨'/' :: rest, output⟩
  | ⟨['/', '.'], output⟩ => some ⟨['/'], output⟩
  | ⟨'/' :: '.' :: '.' :: '/' :: rest, output⟩ => some ⟨'/' :: rest, withoutLast output⟩
  | ⟨['/', '.', '.'], output⟩ => some ⟨['/'], withoutLast output⟩
  | ⟨['.'], output⟩ | ⟨['.', '.'], output⟩ => some ⟨[], output⟩
  | ⟨c :: rest, output⟩ => some ⟨rest.dropWhile (· != '/'), output ++ c :: rest.takeWhile (· != '/')⟩

/-! ## The rules on segments -/

theorem withoutLast_climbed {pieces : List (List Char)} (climbed : Climbed pieces) :
    withoutLast pieces.reverse.flatten = pieces.tail.reverse.flatten := by
  have unmarked : ∀ {s : List Char}, '/' ∉ s → ∀ d ∈ s, (d == '/') = false := by
    rintro s clear d member
    rw [beq_eq_false_iff_ne]
    rintro rfl
    exact clear member
  unfold withoutLast
  cases climbed with
  | none => rfl
  | @front s clear plain =>
    have found : splitAtLast? (· == '/') s = none := splitAtLast?_eq_none_iff.mpr (unmarked clear)
    simp [found]
  | @piece s pieces clear plain below =>
    have found := @splitAtLast?_cut (· == '/') pieces.reverse.flatten s '/' rfl (unmarked clear)
    simp [found]

/-- A rewriting between two segments: the pieces that are written, the last one first, and the segments to come. -/
def between (pieces rest : List (List Char)) : Rewriting := ⟨slashed rest, pieces.reverse.flatten⟩

/-- What is left behind a dot segment: at the end of the path there is a slash for it. -/
def orSlash (rest : List (List Char)) : List (List Char) := if rest.isEmpty then [[]] else rest

theorem step_dot (pieces rest : List (List Char)) :
    step (between pieces (['.'] :: rest)) = some (between pieces (orSlash rest)) := by
  cases rest <;> rfl

theorem step_dots {pieces : List (List Char)} (climbed : Climbed pieces) (rest : List (List Char)) :
    step (between pieces (['.', '.'] :: rest)) = some (between pieces.tail (orSlash rest)) := by
  rw [between, between, ← withoutLast_climbed climbed]
  cases rest <;> rfl

theorem takeWhile_slashed {s : List Char} (clear : '/' ∉ s) (rest : List (List Char)) :
    (s ++ slashed rest).takeWhile (· != '/') = s ∧ (s ++ slashed rest).dropWhile (· != '/') = slashed rest := by
  have passed : ∀ c ∈ s, (c != '/') = true := by
    intro c member
    rw [bne_iff_ne]
    rintro rfl
    exact clear member
  rw [List.takeWhile_append_of_pos passed, List.dropWhile_append_of_pos passed]
  cases rest <;> simp [slashed]

theorem step_plain {c : Char} {rest : List Char}
    (plain : isDotSegment (if c = '/' then rest.takeWhile (· != '/') else (c :: rest).takeWhile (· != '/')) = false)
    (output : List Char) :
    step ⟨c :: rest, output⟩ = some ⟨rest.dropWhile (· != '/'), output ++ c :: rest.takeWhile (· != '/')⟩ := by
  -- Every rule but the last one asks for a dot segment.
  unfold step
  split
  all_goals simp_all [isDotSegment]

theorem step_segment {s : List Char} (clear : '/' ∉ s) (plain : isDotSegment s = false)
    (pieces rest : List (List Char)) :
    step (between pieces (s :: rest)) = some (between (('/' :: s) :: pieces) rest) := by
  obtain ⟨taken, dropped⟩ := takeWhile_slashed clear rest
  have written : step ⟨'/' :: (s ++ slashed rest), pieces.reverse.flatten⟩ = _ :=
    step_plain (by simpa [taken] using plain) pieces.reverse.flatten
  rw [taken, dropped] at written
  simpa [between, slashed] using written

/-! ## Runs of rules -/

theorem reaches_climb {pieces rest : List (List Char)} (climbed : Climbed pieces) (clear : ∀ s ∈ rest, '/' ∉ s) :
    Reaches step (between pieces rest) ⟨[], (climb pieces rest).reverse.flatten⟩ := by
  -- At the end of the path a dot segment leaves an empty one, which is written as a slash.
  have ending : ∀ pieces, Reaches step (between pieces [[]]) ⟨[], (['/'] :: pieces).reverse.flatten⟩ :=
    fun pieces => .single (step_segment List.not_mem_nil rfl pieces [])
  fun_induction climb pieces rest with
  | case1 pieces => exact .refl
  | case2 pieces rest last =>
    rw [List.isEmpty_iff.mp last]
    exact .head (step_dot pieces []) (ending pieces)
  | case3 pieces rest more ih =>
    refine .head (step_dot pieces rest) ?_
    rw [orSlash, if_neg more]
    exact ih climbed fun s member => clear s (List.mem_cons_of_mem _ member)
  | case4 pieces rest last =>
    rw [List.isEmpty_iff.mp last]
    exact .head (step_dots climbed []) (ending pieces.tail)
  | case5 pieces rest more _ ih =>
    refine .head (step_dots climbed rest) ?_
    rw [orSlash, if_neg more]
    exact ih climbed.tail fun s member => clear s (List.mem_cons_of_mem _ member)
  | case6 pieces s rest single double ih =>
    obtain ⟨here, later⟩ := List.forall_mem_cons.mp clear
    have plain : isDotSegment s = false := by simp [isDotSegment, single, double]
    exact .head (step_segment here plain pieces rest) (ih (.piece here plain climbed) later)

def joined : List (List Char) → List Char
  | [] => []
  | first :: rest => first ++ slashed rest

theorem joined_segments (path : List Char) : joined (segments path) = path := by
  have whole := slashed_segments path
  cases parts : segments path with
  | nil => exact absurd parts (segments_ne_nil path)
  | cons first rest =>
    rw [parts] at whole
    exact (List.cons.inj whole).2

theorem reaches_dropWhile (parts : List (List Char)) :
    Reaches step ⟨joined parts, []⟩ ⟨joined (parts.dropWhile isDotSegment), []⟩ := by
  -- The dot segments in front go before anything is written.
  induction parts with
  | nil => exact .refl
  | cons first rest ih =>
    cases dot : isDotSegment first with
    | false =>
      rw [List.dropWhile_cons_of_neg (by simp [dot])]
      exact .refl
    | true =>
      rw [List.dropWhile_cons_of_pos dot]
      refine .head ?_ ih
      simp only [isDotSegment, Bool.or_eq_true, beq_iff_eq] at dot
      rcases dot with rfl | rfl
      · cases rest <;> rfl
      · cases rest <;> rfl

theorem reaches_front {first : List Char} (clear : '/' ∉ first) (plain : isDotSegment first = false)
    (rest : List (List Char)) : Reaches step ⟨joined (first :: rest), []⟩ (between [first] rest) := by
  cases first with
  | nil => exact .refl
  | cons c first =>
    refine .single ?_
    obtain ⟨taken, dropped⟩ := takeWhile_slashed clear rest
    rw [List.mem_cons, not_or] at clear
    obtain ⟨taken', dropped'⟩ := takeWhile_slashed clear.2 rest
    have written : step ⟨c :: (first ++ slashed rest), []⟩ = _ :=
      step_plain (by rw [if_neg (Ne.symm clear.1), ← List.cons_append, taken]; exact plain) []
    rw [taken', dropped'] at written
    simpa [between, joined] using written

theorem reaches_removeDotSegments (path : List Char) : Reaches step ⟨path, []⟩ ⟨[], removeDotSegments path⟩ := by
  have front := reaches_dropWhile (segments path)
  rw [joined_segments] at front
  refine front.trans ?_
  unfold removeDotSegments
  cases kept : (segments path).dropWhile isDotSegment with
  | nil => exact .refl
  | cons first rest =>
    obtain ⟨clear, plain⟩ := of_dropWhile_segments kept
    rw [List.forall_mem_cons] at clear
    exact (reaches_front clear.1 plain rest).trans (reaches_climb (.front clear.1 plain) clear.2)

end Rewriting

theorem exists_climb_eq_cons {rest : List (List Char)} (some : rest ≠ []) (pieces : List (List Char)) :
    ∃ s below, climb pieces rest = ('/' :: s) :: below := by
  fun_induction climb pieces rest with
  | case1 => contradiction
  | case2 pieces | case4 pieces => exact ⟨_, _, rfl⟩
  | case3 pieces rest more ih | case5 pieces rest more _ ih => exact ih (by simpa using more)
  | case6 pieces s rest single double ih =>
    cases rest with
    | nil => exact ⟨s, pieces, rfl⟩
    | cons => exact ih (by simp)

theorem head?_removeDotSegments {path : List Char} (slash : path.head? = some '/') :
    (removeDotSegments path).head? = some '/' := by
  obtain ⟨rest, rfl⟩ := List.head?_eq_some_iff.mp slash
  have rooted : Rooted (removeDotSegments ('/' :: rest)) := rooted_removeDotSegments (by simp [Rooted])
  obtain ⟨s, below, climbed⟩ := exists_climb_eq_cons (segments_ne_nil rest) [[]]
  have kept : removeDotSegments ('/' :: rest) = below.reverse.flatten ++ '/' :: s := by
    rw [removeDotSegments, segments_cons_slash, List.dropWhile_cons_of_neg (by decide)]
    simp [climbed]
  cases head : (removeDotSegments ('/' :: rest)).head? with
  | none => simp [kept] at head
  | some c => rw [rooted c head]

/-- Removing dot segments by rewriting ends on every path, and gives its normal form: no segment of it is `.` or `..`, a
slash in front stays there, and the paths that are left as they are are those without such a segment. -/
theorem removeDotSegments_normal (path : List Char) :
    StateTransition.eval Rewriting.step ⟨path, []⟩ = .some ⟨[], removeDotSegments path⟩ ∧
    (∀ s ∈ segments (removeDotSegments path), s ≠ ['.'] ∧ s ≠ ['.', '.']) ∧
    (path.head? = some '/' → (removeDotSegments path).head? = some '/') ∧
    removeDotSegments (removeDotSegments path) = removeDotSegments path ∧
    (removeDotSegments path = path ↔ ∀ s ∈ segments path, s ≠ ['.'] ∧ s ≠ ['.', '.']) := by
  have undotted : ∀ s, isDotSegment s = false ↔ s ≠ ['.'] ∧ s ≠ ['.', '.'] := fun s => by simp [isDotSegment]
  have plain := plain_removeDotSegments path
  refine ⟨?_, ?_, head?_removeDotSegments, removeDotSegments_eq_self_iff.mpr plain, ?_⟩
  · exact Part.eq_some_iff.mpr (mem_eval.mpr ⟨Rewriting.reaches_removeDotSegments path, rfl⟩)
  · exact fun s member => (undotted s).mp (plain s member)
  · simp only [removeDotSegments_eq_self_iff, undotted]

/-- A path with more `..` than segments before them, and a `.` at its end. -/
theorem removeDotSegments_normal_ascent :
    let path := "/a/./b/../../../c/.".toList
    path.head? = some '/' ∧ removeDotSegments path = "/c/".toList ∧
      StateTransition.eval Rewriting.step ⟨path, []⟩ = .some ⟨[], "/c/".toList⟩ ∧
      ['c'] ∈ segments "/c/".toList ∧ ['c'] ≠ ['.'] ∧ ['c'] ≠ ['.', '.'] ∧ "/c/".toList.head? = some '/' ∧
      removeDotSegments "/c/".toList = "/c/".toList := by
  intro path
  have slash : path.head? = some '/' := by decide
  have found : removeDotSegments path = "/c/".toList := by decide
  have member : ['c'] ∈ segments "/c/".toList := by decide
  obtain ⟨ends, undotted, rooted, again, -⟩ := removeDotSegments_normal path
  rw [found] at ends undotted rooted again
  exact ⟨slash, found, ends, member, (undotted _ member).1, (undotted _ member).2, rooted slash, again⟩

end TemplateQuery.Iri
