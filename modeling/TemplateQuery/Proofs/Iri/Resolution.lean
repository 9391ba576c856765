import TemplateQuery.Proofs.Iri.DotSegments

/-! Resolution comes to rest after one step. What it gives against an absolute base is absolute and has no dot segments
left, so that resolving it again, against whatever base, changes nothing. A path that starts with two slashes once its
dot segments are gone is read as an authority the next time; this moves the border between the two and no character. -/

set_option autoImplicit false

namespace TemplateQuery.Iri

open Text

/-! ## Segments of a text -/

theorem segments_ne_nil (path : List Char) : segments path ≠ [] := by
  intro none
  have whole := slashed_segments path
  rw [none] at whole
  cases whole

theorem segments_cons_slash (path : List Char) : segments ('/' :: path) = [] :: segments path := by
  simp [segments]

theorem segments_append_slash (front back : List Char) :
    segments (front ++ '/' :: back) = segments front ++ segments back := by
  induction front with
  | nil => exact segments_cons_slash back
  | cons c front ih =>
    rw [List.cons_append, segments, segments, ih]
    by_cases slash : c = '/'
    · rw [if_pos slash, if_pos slash, List.cons_append]
    · rw [if_neg slash, if_neg slash]
      cases parts : segments front with
      | nil => exact absurd parts (segments_ne_nil front)
      | cons s rest => rfl

theorem segments_of_clear {s : List Char} (clear : '/' ∉ s) : segments s = [s] := by
  induction s with
  | nil => rfl
  | cons c s ih =>
    rw [List.mem_cons, not_or] at clear
    rw [segments, if_neg (Ne.symm clear.1), ih clear.2]

theorem clear_of_mem_segments {path s : List Char} (member : s ∈ segments path) : '/' ∉ s := by
  induction path generalizing s with
  | nil =>
    rw [List.mem_singleton.mp member]
    exact List.not_mem_nil
  | cons c path ih =>
    by_cases slash : c = '/'
    · rw [slash, segments_cons_slash] at member
      rcases List.mem_cons.mp member with rfl | later
      · exact List.not_mem_nil
      · exact ih later
    · rw [segments, if_neg slash] at member
      cases parts : segments path with
      | nil => exact absurd parts (segments_ne_nil path)
      | cons first rest =>
        rw [parts] at member
        rcases List.mem_cons.mp member with rfl | later
        · rw [List.mem_cons, not_or]
          exact ⟨Ne.symm slash, ih (by simp [parts])⟩
        · apply ih
          simp [parts, later]

/-! ## Paths without dot segments -/

def Plain (path : List Char) : Prop := ∀ s ∈ segments path, isDotSegment s = false

instance (path : List Char) : Decidable (Plain path) :=
  inferInstanceAs (Decidable (∀ s ∈ segments path, isDotSegment s = false))

/-- Pieces of a path without dot segments, the last one first. Only the front of the path has no slash. -/
inductive Climbed : List (List Char) → Prop
  | none : Climbed []
  | front {s : List Char} (clear : '/' ∉ s) (plain : isDotSegment s = false) : Climbed [s]
  | piece {s : List Char} {pieces : List (List Char)} (clear : '/' ∉ s) (plain : isDotSegment s = false)
      (below : Climbed pieces) : Climbed (('/' :: s) :: pieces)

namespace Climbed

variable {pieces rest : List (List Char)}

theorem tail (climbed : Climbed pieces) : Climbed pieces.tail := by
  cases climbed with
  | none => exact .none
  | front => exact .none
  | piece _ _ below => exact below

theorem slash (climbed : Climbed pieces) : Climbed (['/'] :: pieces) := .piece (by simp) rfl climbed

theorem climb (climbed : Climbed pieces) (clear : ∀ s ∈ rest, '/' ∉ s) : Climbed (climb pieces rest) := by
  fun_induction Iri.climb pieces rest with
  | case1 pieces => exact climbed
  | case2 pieces rest last => exact climbed.slash
  | case3 pieces rest more ih => exact ih climbed fun s member => clear s (List.mem_cons_of_mem _ member)
  | case4 pieces rest last => exact climbed.tail.slash
  | case5 pieces rest more _ ih => exact ih climbed.tail fun s member => clear s (List.mem_cons_of_mem _ member)
  | case6 pieces s rest single double ih =>
    apply ih
    · exact .piece (clear s List.mem_cons_self) (by simp [isDotSegment, single, double]) climbed
    · exact fun d member => clear d (List.mem_cons_of_mem s member)

theorem plain (climbed : Climbed pieces) : Plain pieces.reverse.flatten := by
  induction climbed with
  | none => decide
  | @front s clear plain =>
    intro d member
    rw [List.reverse_singleton, List.flatten_singleton, segments_of_clear clear] at member
    rwa [List.mem_singleton.mp member]
  | @piece s pieces clear plain below ih =>
    intro d member
    rw [List.reverse_cons, List.flatten_append, List.flatten_singleton, segments_append_slash, segments_of_clear clear,
      List.mem_append] at member
    rcases member with early | last
    · exact ih d early
    · rwa [List.mem_singleton.mp last]

end Climbed

theorem of_dropWhile_segments {path first : List Char} {rest : List (List Char)}
    (kept : (segments path).dropWhile isDotSegment = first :: rest) :
    (∀ s ∈ first :: rest, '/' ∉ s) ∧ isDotSegment first = false := by
  constructor
  · rw [← kept]
    exact fun s member => clear_of_mem_segments (List.dropWhile_subset _ member)
  · have stops := List.head_dropWhile_not isDotSegment (l := segments path) (by simp [kept])
    simpa [kept] using stops

theorem plain_removeDotSegments (path : List Char) : Plain (removeDotSegments path) := by
  unfold removeDotSegments
  cases kept : (segments path).dropWhile isDotSegment with
  | nil => decide
  | cons first rest =>
    obtain ⟨clear, undotted⟩ := of_dropWhile_segments kept
    apply Climbed.plain
    apply Climbed.climb
    · exact .front (clear first List.mem_cons_self) undotted
    · exact fun s member => clear s (List.mem_cons_of_mem first member)

/-! ## Characters of a path -/

theorem mem_of_mem_segments {path s : List Char} {c : Char} (member : s ∈ segments path) (inside : c ∈ s) :
    c ∈ path := by
  have found : c ∈ slashed (segments path) :=
    List.mem_flatMap.mpr ⟨s, member, List.mem_cons_of_mem '/' inside⟩
  rw [slashed_segments, List.mem_cons] at found
  rcases found with rfl | found
  · exact absurd inside (clear_of_mem_segments member)
  · exact found

theorem mem_climb {pieces rest : List (List Char)} {piece : List Char} (member : piece ∈ climb pieces rest) :
    piece ∈ pieces ∨ piece = ['/'] ∨ ∃ s ∈ rest, piece = '/' :: s := by
  fun_induction climb pieces rest with
  | case1 pieces => exact .inl member
  | case2 pieces rest last => grind
  | case3 pieces rest more ih => grind
  | case4 pieces rest last => grind [List.mem_of_mem_tail]
  | case5 pieces rest more _ ih => grind [List.mem_of_mem_tail]
  | case6 pieces s rest single double ih => grind

theorem mem_removeDotSegments {path : List Char} {c : Char} (member : c ∈ removeDotSegments path) :
    c ∈ path ∨ c = '/' := by
  unfold removeDotSegments at member
  cases kept : (segments path).dropWhile isDotSegment with
  | nil => simp [kept] at member
  | cons first rest =>
    have inside : ∀ s ∈ first :: rest, c ∈ s → c ∈ path := by
      rw [← kept]
      exact fun s member => mem_of_mem_segments (List.dropWhile_subset _ member)
    rw [kept] at member
    obtain ⟨piece, written, inPiece⟩ := List.mem_flatten.mp member
    rcases mem_climb (List.mem_reverse.mp written) with below | rfl | ⟨s, later, rfl⟩
    · rw [List.mem_singleton.mp below] at inPiece
      exact .inl (inside first List.mem_cons_self inPiece)
    · exact .inr (List.mem_singleton.mp inPiece)
    · rcases List.mem_cons.mp inPiece with slash | inPiece
      · exact .inr slash
      · exact .inl (inside s (List.mem_cons_of_mem first later) inPiece)

def Rooted (path : List Char) : Prop := ∀ c ∈ path.head?, c = '/'

theorem rooted_flatten {pieces : List (List Char)} (rooted : ∀ piece ∈ pieces, Rooted piece) :
    Rooted pieces.flatten := by
  induction pieces with
  | nil => simp [Rooted]
  | cons piece pieces ih =>
    have later := ih fun other member => rooted other (List.mem_cons_of_mem piece member)
    cases piece with
    | nil => exact later
    | cons c piece => exact rooted (c :: piece) List.mem_cons_self

theorem rooted_removeDotSegments {path : List Char} (rooted : Rooted path) : Rooted (removeDotSegments path) := by
  unfold removeDotSegments
  cases kept : (segments path).dropWhile isDotSegment with
  | nil => simp [Rooted]
  | cons first rest =>
    -- In front of the leading slash stands an empty segment, which is no dot segment.
    have front : first = [] := by
      cases path with
      | nil => simpa [segments, isDotSegment, eq_comm] using congrArg List.head? kept
      | cons c path =>
        rw [rooted c rfl, segments_cons_slash, List.dropWhile_cons_of_neg (by decide)] at kept
        exact (List.cons.inj kept).1.symm
    apply rooted_flatten
    intro piece member
    rcases mem_climb (List.mem_reverse.mp member) with below | rfl | ⟨s, -, rfl⟩
    · rw [List.mem_singleton.mp below, front]
      simp [Rooted]
    · simp [Rooted]
    · simp [Rooted]

/-! ## Components of a reference -/

/-- Components such as a reference has: none of them holds the mark that would end it. -/
structure Components.Regular (c : Components) : Prop where
  scheme : ∀ s ∈ c.scheme, isScheme s = true
  authority : ∀ a ∈ c.authority, ∀ d ∈ a, d ≠ '#' ∧ d ≠ '?' ∧ d ≠ '/'
  path : ∀ d ∈ c.path, d ≠ '#' ∧ d ≠ '?'
  query : ∀ q ∈ c.query, ∀ d ∈ q, d ≠ '#'
  /-- What follows an authority starts with a slash. -/
  rooted : c.authority.isSome = true → Rooted c.path

theorem cutAt_clear (mark : Char) (cs : List Char) : ∀ c ∈ (cutAt mark cs).1, c ≠ mark := by
  unfold cutAt
  split
  · next before after found => exact fun c member => by simpa using clear_of_splitAt? found c member
  · next absent => exact fun c member => by simpa using splitAt?_eq_none_iff.mp absent c member

theorem mem_of_mem_cutAt {mark c : Char} {cs : List Char}
    (member : c ∈ (cutAt mark cs).1 ∨ ∃ after ∈ (cutAt mark cs).2, c ∈ after) : c ∈ cs := by
  rw [← cutAt_join mark cs, List.mem_append]
  rcases member with before | ⟨after, found, member⟩
  · exact .inl before
  · right
    rw [Option.mem_def.mp found]
    exact List.mem_cons_of_mem mark member

theorem mem_of_mem_cutScheme {c : Char} {cs : List Char} (member : c ∈ (cutScheme cs).2) : c ∈ cs := by
  rw [← cutScheme_join cs]
  exact List.mem_append_right _ member

theorem mem_of_mem_cutAuthority {c : Char} {cs : List Char}
    (member : c ∈ (cutAuthority cs).2 ∨ ∃ a ∈ (cutAuthority cs).1, c ∈ a) : c ∈ cs := by
  rw [← cutAuthority_join cs, List.mem_append]
  rcases member with path | ⟨a, found, member⟩
  · exact .inr path
  · left
    rw [Option.mem_def.mp found]
    simp [member]

theorem cutAuthority_bounds (cs : List Char) :
    (∀ a ∈ (cutAuthority cs).1, '/' ∉ a) ∧ ((cutAuthority cs).1.isSome = true → Rooted (cutAuthority cs).2) := by
  fun_cases cutAuthority cs with
  | case1 after =>
    constructor
    · intro a found
      cases found
      intro slash
      have passed := List.all_eq_true.mp List.all_takeWhile '/' slash
      simp at passed
    · intro _ c head
      have stops := List.head?_dropWhile_not (· != '/') after
      rw [Option.mem_def.mp head] at stops
      simpa using stops
  | case2 => simp

theorem regular_split (cs : List Char) : (split cs).Regular := by
  -- Neither mark is left where the authority and the path are looked for.
  have unmarked : ∀ c ∈ (cutAt '?' (cutAt '#' cs).1).1, c ≠ '#' ∧ c ≠ '?' := fun c member =>
    ⟨cutAt_clear '#' cs c (mem_of_mem_cutAt (.inl member)), cutAt_clear '?' _ c member⟩
  exact {
    scheme := fun s found => (split_scheme_eq_some_iff.mp found).1
    authority := fun a found d member => by
      obtain ⟨hash, question⟩ := unmarked d (mem_of_mem_cutScheme (mem_of_mem_cutAuthority (.inr ⟨a, found, member⟩)))
      refine ⟨hash, question, ?_⟩
      rintro rfl
      exact (cutAuthority_bounds _).1 a found member
    path := fun d member => unmarked d (mem_of_mem_cutScheme (mem_of_mem_cutAuthority (.inl member)))
    query := fun q found d member => cutAt_clear '#' cs d (mem_of_mem_cutAt (.inr ⟨q, found, member⟩))
    rooted := (cutAuthority_bounds _).2 }

theorem mem_merge {base : Components} {path : List Char} {c : Char} (member : c ∈ merge base path) :
    c ∈ base.path ∨ c ∈ path ∨ c = '/' := by
  unfold merge at member
  split at member
  · rcases List.mem_cons.mp member with slash | member
    · exact .inr (.inr slash)
    · exact .inr (.inl member)
  · split at member
    · next before after found =>
      obtain ⟨d, -, whole⟩ := append_of_splitAtLast? found
      rw [List.mem_append, List.mem_cons] at member
      rcases member with early | slash | member
      · exact .inl (by simp [whole, early])
      · exact .inr (.inr slash)
      · exact .inr (.inl member)
    · exact .inr (.inl member)

theorem rooted_merge {base : Components} (authority : base.authority.isSome = true) (rooted : Rooted base.path)
    (path : List Char) : Rooted (merge base path) := by
  unfold merge
  cases basePath : base.path with
  | nil => simp [authority, Rooted]
  | cons c rest =>
    have slash : c = '/' := rooted c (by simp [basePath])
    subst slash
    cases found : splitAtLast? (· == '/') ('/' :: rest) with
    | none => exact absurd (splitAtLast?_eq_none_iff.mp found _ List.mem_cons_self) (by decide)
    | some cut =>
      obtain ⟨before, after⟩ := cut
      obtain ⟨d, mark, whole⟩ := append_of_splitAtLast? found
      cases before with
      | nil => simp [Rooted]
      | cons e before =>
        have same : e = '/' := (List.cons.inj whole).1.symm
        simp [Rooted, same]

theorem Components.Regular.target {base reference : Components} (first : base.Regular) (second : reference.Regular) :
    (target base reference).Regular := by
  have pathless : ∀ {path : List Char}, (∀ d ∈ path, d ≠ '#' ∧ d ≠ '?') →
      ∀ d ∈ removeDotSegments path, d ≠ '#' ∧ d ≠ '?' := by
    intro path clear d member
    rcases mem_removeDotSegments member with inside | rfl
    · exact clear d inside
    · decide
  -- The cases are the rules of resolution: a scheme, an authority, no path, a path from the root, and a merged one.
  unfold Iri.target
  split
  · exact ⟨second.scheme, second.authority, pathless second.path, second.query,
      fun found => rooted_removeDotSegments (second.rooted found)⟩
  split
  · exact ⟨first.scheme, second.authority, pathless second.path, second.query,
      fun found => rooted_removeDotSegments (second.rooted found)⟩
  split
  · refine ⟨first.scheme, first.authority, first.path, ?_, first.rooted⟩
    intro q found
    rcases Option.or_eq_some_iff.mp found with own | ⟨-, inherited⟩
    · exact second.query q own
    · exact first.query q inherited
  split
  · next slash =>
    refine ⟨first.scheme, first.authority, pathless second.path, second.query, fun _ => ?_⟩
    apply rooted_removeDotSegments
    rw [Rooted, slash]
    simp
  · refine ⟨first.scheme, first.authority, pathless ?_, second.query, fun found => ?_⟩
    · intro d member
      rcases mem_merge member with inBase | inPath | rfl
      · exact first.path d inBase
      · exact second.path d inPath
      · decide
    · exact rooted_removeDotSegments (@rooted_merge base found (first.rooted found) reference.path)

/-! ## Components read again -/

/-- What the components are once their text is split anew: a path that starts with two slashes passes for an
authority. -/
def Components.reread (c : Components) : Components :=
  match c.authority with
  | some _ => c
  | none => { c with authority := (cutAuthority c.path).1, path := (cutAuthority c.path).2 }

def marked (mark : Char) (part : Option (List Char)) : List Char := part.elim [] (mark :: ·)

theorem cutAt_marked {mark : Char} {front : List Char} (clear : ∀ c ∈ front, c ≠ mark) (part : Option (List Char)) :
    cutAt mark (front ++ marked mark part) = (front, part) := by
  rw [cutAt_append clear]
  cases part with
  | none => simp [marked, cutAt, splitAt?]
  | some after => simp [marked, cutAt, splitAt?]

def Components.hierarchy (c : Components) : List Char :=
  (match c.authority with | some a => '/' :: '/' :: a | none => []) ++ c.path

theorem recompose_eq {c : Components} {scheme : List Char} (known : c.scheme = some scheme) :
    c.recompose = scheme ++ ':' :: c.hierarchy ++ marked '?' c.query ++ marked '#' c.fragment := by
  unfold Components.recompose Components.hierarchy
  cases c.authority <;> cases c.query <;> cases c.fragment <;> simp [known, marked]

theorem cutAuthority_hierarchy {c : Components} (regular : c.Regular) :
    cutAuthority c.hierarchy = (c.reread.authority, c.reread.path) := by
  unfold Components.hierarchy Components.reread
  cases known : c.authority with
  | none => rfl
  | some a =>
    have passed : ∀ d ∈ a, (d != '/') = true := fun d member => by
      simpa using (regular.authority a known d member).2.2
    have rooted := regular.rooted (by simp [known])
    simp only [List.cons_append, cutAuthority, List.takeWhile_append_of_pos passed, List.dropWhile_append_of_pos passed,
      known]
    cases path : c.path with
    | nil => simp
    | cons d path =>
      have slash : d = '/' := rooted d (by simp [path])
      simp [slash]

theorem Components.Regular.hierarchy {c : Components} (regular : c.Regular) :
    ∀ d ∈ c.hierarchy, d ≠ '#' ∧ d ≠ '?' := by
  intro d member
  rcases List.mem_append.mp member with before | path
  · cases known : c.authority with
    | none => simp [known] at before
    | some a =>
      simp only [known, List.mem_cons] at before
      rcases before with rfl | rfl | inside
      · decide
      · decide
      · have clear := regular.authority a known d inside
        exact ⟨clear.1, clear.2.1⟩
  · exact regular.path d path

/-- Splitting undoes putting together, up to where a path passes for an authority. -/
theorem split_recompose {c : Components} (regular : c.Regular) {scheme : List Char} (known : c.scheme = some scheme) :
    split c.recompose = c.reread := by
  have valid : isScheme scheme = true := regular.scheme scheme known
  -- The text is cut from its end: at the first `#`, at the first `?` before that, and then at the first colon.
  have marks : ∀ d ∈ scheme ++ ':' :: c.hierarchy, d ≠ '#' ∧ d ≠ '?' := by
    intro d member
    rw [List.mem_append, List.mem_cons] at member
    rcases member with inScheme | rfl | member
    · have plain := isScheme_plain valid d inScheme
      exact ⟨plain.1, plain.2.1⟩
    · decide
    · exact regular.hierarchy d member
  have hashless : ∀ d ∈ scheme ++ ':' :: c.hierarchy ++ marked '?' c.query, d ≠ '#' := by
    intro d member
    rcases List.mem_append.mp member with front | query
    · exact (marks d front).1
    · cases asked : c.query with
      | none => simp [asked, marked] at query
      | some q =>
        rw [asked] at query
        rcases List.mem_cons.mp query with rfl | inside
        · decide
        · exact regular.query q asked d inside
  unfold split
  rw [recompose_eq known, cutAt_marked hashless]
  simp only
  rw [cutAt_marked fun d member => (marks d member).2, cutScheme_append valid, cutAuthority_hierarchy regular, ← known]
  unfold Components.reread
  split
  · rfl
  · rfl

theorem plain_cutAuthority {path : List Char} (plain : Plain path) : Plain (cutAuthority path).2 := by
  fun_cases cutAuthority path with
  | case1 after =>
    -- An authority takes whole segments with it, so that those behind it were there before.
    intro s member
    cases rest : after.dropWhile (· != '/') with
    | nil =>
      rw [rest] at member
      rw [List.mem_singleton.mp member]
      rfl
    | cons c back =>
      have slash : c = '/' := (cutAuthority_bounds ('/' :: '/' :: after)).2 rfl c (by simp [cutAuthority, rest])
      rw [rest, slash, segments_cons_slash] at member
      rcases List.mem_cons.mp member with rfl | later
      · rfl
      · apply plain
        rw [segments_cons_slash, segments_cons_slash, ← List.takeWhile_append_dropWhile (p := (· != '/')) (l := after),
          rest, slash, segments_append_slash]
        simp [later]
  | case2 => exact plain

theorem plain_reread {c : Components} (plain : Plain c.path) : Plain c.reread.path := by
  unfold Components.reread
  split
  · exact plain
  · exact plain_cutAuthority plain

theorem plain_target {base : Components} (plain : Plain base.path) (reference : Components) :
    Plain (target base reference).path := by
  unfold target
  split
  · exact plain_removeDotSegments _
  split
  · exact plain_removeDotSegments _
  split
  · exact plain
  split
  · exact plain_removeDotSegments _
  · exact plain_removeDotSegments _

/-- What a reference resolves to against an absolute base without dot segments is absolute, and resolution against any
base leaves it as it is. -/
theorem resolve_resolve (base reference other : String) (absolute : isAbsolute base = true)
    (undotted : ∀ s ∈ segments (split base.toList).path, s ≠ ['.'] ∧ s ≠ ['.', '.']) :
    isAbsolute (resolve base reference) = true ∧
      resolve other (resolve base reference) = resolve base reference := by
  have whole := isAbsolute_resolve absolute reference
  refine ⟨whole, (resolve_eq_self_iff other whole).mpr ?_⟩
  have plain : Plain (split base.toList).path := fun s member => by
    simpa [isDotSegment] using undotted s member
  have regular := (regular_split base.toList).target (regular_split reference.toList)
  have inherited : (split base.toList).scheme.isSome = true := absolute
  obtain ⟨scheme, known⟩ : ∃ scheme, (target (split base.toList) (split reference.toList)).scheme = some scheme := by
    apply Option.isSome_iff_exists.mp
    rw [target_scheme, Option.isSome_or, inherited, Bool.or_true]
  rw [resolve, String.toList_ofList, split_recompose regular known]
  exact plain_reread (plain_target plain _)

/-- The path of this reference becomes `//z`, and `z` is an authority from then on. -/
theorem resolve_resolve_authority :
    resolve "a:b" "x/..//y/../z" = "a://z" ∧ (split "a://z".toList).authority = some ['z'] ∧
      isAbsolute "a://z" = true ∧ resolve "p://q/../r" "a://z" = "a://z" := by
  have found : resolve "a:b" "x/..//y/../z" = "a://z" := by decide +kernel
  have fixed := resolve_resolve "a:b" "x/..//y/../z" "p://q/../r" (by decide) (by decide)
  rw [found] at fixed
  exact ⟨found, by decide, fixed.1, fixed.2⟩

end TemplateQuery.Iri
