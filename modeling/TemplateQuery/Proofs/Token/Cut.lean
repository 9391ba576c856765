import Mathlib.Data.Bool.AllAny
import TemplateQuery.Proofs.Token.Embedding
import TemplateQuery.Proofs.Token.Ending

/-! A text without its end. Where what is cut off starts with a word of its own or with white space, the tokens before
it are read as they were. -/

set_option autoImplicit false

namespace TemplateQuery.Token

open Text

/-! ## What can be cut off -/

def goesOn (c : Char) : Bool := isNameChar c || ['.', ':', '%', '\\', '+'].contains c

/-- Text that starts with a word, or with what goes on no word. No number goes on with it. -/
structure Severable (tail : List Char) : Prop where
  word : ∃ word after, tail = word ++ after ∧ (∀ c ∈ word, isLetter c = true) ∧ ∀ c ∈ after.head?, goesOn c = false
  unmarked : ∀ c ∈ tail.head?, isExponentMark c = false

variable {tail : List Char}

theorem isNameChar_of_isLetter {c : Char} (letter : isLetter c = true) : isNameChar c = true := by
  simp [isNameChar, isLetterOrUnderscore, letter]

theorem Severable.endsNumber (severable : Severable tail) : EndsNumber tail := by
  obtain ⟨⟨word, after, rfl, letters, shut⟩, unmarked⟩ := severable
  intro c first
  have outside : c ≠ 'e' ∧ c ≠ 'E' := by simpa [isExponentMark] using unmarked c first
  -- The first character is one that goes on nothing, or a letter; no digit, sign or point is either.
  cases word with
  | nil =>
    have closed := shut c (by simpa using first)
    simp only [goesOn, isNameChar, Bool.or_eq_false_iff] at closed
    have marks : c ≠ '.' ∧ c ≠ '+' ∧ c ≠ '-' := by
      refine ⟨?_, ?_, ?_⟩ <;> rintro rfl <;> exact absurd closed (by decide)
    exact ⟨closed.1.1.2, by simp [outside, marks]⟩
  | cons d word =>
    obtain rfl : d = c := by simpa using first
    have letter := letters d List.mem_cons_self
    have marks : d ≠ '.' ∧ d ≠ '+' ∧ d ≠ '-' := by
      refine ⟨?_, ?_, ?_⟩ <;> rintro rfl <;> exact absurd letter (by decide)
    refine ⟨?_, by simp [outside, marks]⟩
    cases digit : d.isDigit with
    | false => rfl
    | true => rw [isLetter_of_isDigit digit] at letter; cases letter

theorem goesOn_eq_false {c : Char} (closed : goesOn c = false) :
    isNameChar c = false ∧ c ≠ '.' ∧ c ≠ ':' ∧ c ≠ '%' ∧ c ≠ '\\' := by
  obtain ⟨name, marks⟩ := Bool.or_eq_false_iff.mp closed
  simp only [List.contains_eq_mem, decide_eq_false_iff_not, List.mem_cons, not_or] at marks
  exact ⟨name, marks.1, marks.2.1, marks.2.2.1, marks.2.2.2.1⟩

theorem Severable.localBody?_ne_none (severable : Severable tail) : localBody? tail ≠ none := by
  obtain ⟨⟨word, after, rfl, letters, shut⟩, -⟩ := severable
  induction word with
  | nil =>
    cases after with
    | nil => simp [localBody?_nil]
    | cons c after =>
      obtain ⟨name, dot, colon, percent, slash⟩ := goesOn_eq_false (shut c rfl)
      simp [localBody?_cons ⟨percent, slash⟩, name, dot, colon]
  | cons c word ih =>
    have rest := ih fun d member => letters d (List.mem_cons_of_mem c member)
    have letter := letters c List.mem_cons_self
    have plain : c ≠ '%' ∧ c ≠ '\\' := by constructor <;> rintro rfl <;> exact absurd letter (by decide)
    obtain ⟨found, read⟩ := Option.ne_none_iff_exists'.mp rest
    rw [List.cons_append, localBody?_cons plain, isNameChar_of_isLetter letter, read]
    simp [prepend]

theorem Severable.run (severable : Severable tail) :
    (tail.takeWhile fun d => isNameChar d || d == '.').getLast? ≠ some '.' := by
  obtain ⟨⟨word, after, rfl, letters, shut⟩, -⟩ := severable
  have inside : ∀ c ∈ word, (isNameChar c || c == '.') = true := by
    intro c member
    simp [isNameChar_of_isLetter (letters c member)]
  have outside : after.takeWhile (fun d => isNameChar d || d == '.') = [] := by
    cases after with
    | nil => rfl
    | cons c after =>
      obtain ⟨name, dot, -⟩ := goesOn_eq_false (shut c rfl)
      simp [name, dot]
  rw [List.takeWhile_append_of_pos inside, outside, List.append_nil]
  intro last
  exact absurd (letters '.' (List.mem_of_getLast? last)) (by decide)

/-- White space that no token ends in can be cut off, with all that follows it. -/
theorem severable_of_loose {c : Char} (loose : isFirm c = false) (cs : List Char) : Severable (c :: cs) := by
  have blank : isBlank c = true ∧ c ≠ oghamSpace := by simpa [isFirm] using loose
  have name : isNameChar c = false := by
    cases inside : isNameChar c with
    | false => rfl
    | true => exact absurd ((isBlank_iff_of_isNameChar inside).mp blank.1) blank.2
  have firm : ∀ d ∈ ['.', ':', '%', '\\', '+'], isFirm d = true := List.all_eq_true.mp (by decide)
  have marks : c ∉ ['.', ':', '%', '\\', '+'] := fun member => by simp [firm c member] at loose
  refine ⟨⟨[], c :: cs, rfl, by simp, ?_⟩, ?_⟩
  · simpa [goesOn, name] using marks
  · have letters : c ≠ 'e' ∧ c ≠ 'E' := by constructor <;> rintro rfl <;> exact absurd name (by decide)
    simpa [isExponentMark] using letters

/-! ## Readers of a text that is cut -/

section Readers

variable {α β : Type} {whole alone : Found α}

/-- What is found in a text alone is what is found in it when `tail` follows, unless that takes some of the tail. -/
structure Severs (tail : List Char) (whole alone : Found α) : Prop where
  found : ∀ {a : α} {rest : List Char}, whole = some (a, rest ++ tail) → alone = some (a, rest)
  absent : whole = none → alone = none

theorem Severs.or {other others : Found α} (first : Severs tail whole alone) (second : Severs tail others other) :
    Severs tail (whole.or others) (alone.or other) := by
  constructor
  · intro a rest found
    rcases Option.or_eq_some_iff.mp found with here | ⟨none, later⟩
    · exact Option.or_eq_some_iff.mpr (.inl (first.found here))
    · exact Option.or_eq_some_iff.mpr (.inr ⟨first.absent none, second.found later⟩)
  · intro none
    obtain ⟨here, later⟩ := Option.or_eq_none_iff.mp none
    exact Option.or_eq_none_iff.mpr ⟨first.absent here, second.absent later⟩

theorem Severs.map (severs : Severs tail whole alone) (f : α → β) :
    Severs tail (whole.map (Prod.map f id)) (alone.map (Prod.map f id)) := by
  constructor
  · intro b rest found
    obtain ⟨⟨a, after⟩, read, same⟩ := Option.map_eq_some_iff.mp found
    cases same
    rw [severs.found read]
    rfl
  · intro none
    rw [severs.absent (Option.map_eq_none_iff.mp none)]
    rfl

theorem Severs.prepend {whole alone : Found (List Char)} (severs : Severs tail whole alone) (c? : Option Char) :
    Severs tail (prepend c? whole) (prepend c? alone) := by
  cases c? with
  | none =>
    refine ⟨fun found => ?_, fun _ => rfl⟩
    cases found
  | some c =>
    have same : ∀ found : Found (List Char),
        Token.prepend (some c) found = found.map (Prod.map (c :: ·) id) := by
      intro found
      cases found <;> rfl
    rw [same, same]
    exact severs.map (c :: ·)

theorem Severs.of_onto (same : whole = alone.onto tail) : Severs tail whole alone := by
  subst same
  constructor
  · intro a rest found
    obtain ⟨⟨b, after⟩, read, same⟩ := Option.map_eq_some_iff.mp found
    obtain ⟨rfl, cut⟩ := Prod.mk.inj same
    rw [read, List.append_cancel_right cut]
  · exact Option.map_eq_none_iff.mp

theorem Severs.of_short (short : ∀ a rest, whole = some (a, rest) → rest.length < tail.length) :
    Severs tail whole none := by
  refine ⟨fun {a rest} found => ?_, fun _ => rfl⟩
  have := short a (rest ++ tail) found
  simp only [List.length_append] at this
  omega

theorem Severs.of_rest (shrinks : ∀ a rest, whole = some (a, rest) → Rest tail rest) : Severs tail whole none :=
  .of_short fun a rest found => (shrinks a rest found).length_lt

theorem length_lt_of_short (front : List Char) {cs after : List Char} (same : cs ++ tail = front ++ after)
    (short : ∀ rest, cs ≠ front ++ rest) : after.length < tail.length := by
  rcases List.append_eq_append_iff.mp same with ⟨beyond, whole, rfl⟩ | ⟨rest, whole, -⟩
  · have nonempty : beyond ≠ [] := by
      rintro rfl
      exact short [] (by simpa using whole.symm)
    have := List.length_pos_iff.mpr nonempty
    simp only [List.length_append]
    omega
  · exact absurd whole (short rest)

theorem severs_operator? (cs : List Char) : Severs tail (operator? (cs ++ tail)) (operator? cs) := by
  rcases cs with _ | ⟨c, _ | ⟨d, cs⟩⟩
  · exact .of_rest fun _ _ => rest_of_operator?
  · have alone : operator? [c] = none := by
      unfold operator?
      split <;> simp_all
    rw [alone]
    refine .of_short fun kind rest found => ?_
    unfold operator? at found
    split at found <;> first
      | (next same => cases found; cases same; simp)
      | cases found
  · refine .of_onto ?_
    simp only [List.cons_append]
    unfold operator?
    split <;> simp_all

theorem severs_iriBody? (cs : List Char) : Severs tail (iriBody? (cs ++ tail)) (iriBody? cs) := by
  fun_induction iriBody? cs with
  | case1 => exact .of_rest fun _ _ => rest_of_iriBody?
  | case2 a b c d cs ih | case3 a b c d e f g h cs ih =>
    simp only [List.cons_append, iriBody?]
    exact ih.prepend _
  | case4 cs =>
    rw [List.cons_append, iriBody?_cons (by decide), if_pos rfl]
    exact .of_onto rfl
  | case5 c cs short long close inside ih =>
    have slash : c ≠ '\\' := by rintro rfl; cases inside
    rw [List.cons_append, iriBody?_cons slash, if_neg close, if_pos inside]
    exact ih.prepend _
  | case6 c cs short long close outside =>
    refine .of_short fun body rest found => ?_
    -- An escape that the text breaks off in ends in what is cut off, and so does the IRI.
    rw [iriBody?.eq_def] at found
    split at found
    · cases found
    · next a b c d after same =>
      obtain ⟨_, _, -, inner, -⟩ := prepend_eq_some found
      have beyond := length_lt_of_short ['\\', 'u', a, b, c, d] same (by simp_all)
      exact Nat.lt_trans (rest_of_iriBody? inner).length_lt beyond
    · next a b c d e f g h after same =>
      obtain ⟨_, _, -, inner, -⟩ := prepend_eq_some found
      have beyond := length_lt_of_short ['\\', 'U', a, b, c, d, e, f, g, h] same (by simp_all)
      exact Nat.lt_trans (rest_of_iriBody? inner).length_lt beyond
    · next same =>
      cases same
      rw [if_neg close, if_neg outside] at found
      cases found

theorem severs_iri? (cs : List Char) : Severs tail (iri? (cs ++ tail)) (iri? cs) := by
  cases cs with
  | nil => exact .of_rest fun _ _ => rest_of_iri?
  | cons c cs =>
    by_cases angle : c = '<'
    · subst angle
      exact (severs_iriBody? cs).map fun body => Kind.iri (String.ofList body)
    · exact .of_onto (by rw [List.cons_append, iri?_eq_none _ angle, iri?_eq_none _ angle]; rfl)

theorem dropWhile_cut {p : Char → Bool} {cs rest : List Char} (same : (cs ++ tail).dropWhile p = rest ++ tail) :
    cs.dropWhile p = rest ∧ (cs ++ tail).takeWhile p = cs.takeWhile p := by
  induction cs with
  | nil =>
    have whole := List.takeWhile_append_dropWhile (p := p) (l := tail)
    rw [List.nil_append] at same
    rw [same, ← List.append_assoc] at whole
    obtain ⟨taken, dropped⟩ := List.append_eq_nil_iff.mp (List.append_left_eq_self.mp whole)
    simp [taken, dropped]
  | cons c cs ih =>
    by_cases inside : p c = true
    · rw [List.cons_append, List.dropWhile_cons_of_pos inside] at same
      obtain ⟨dropped, taken⟩ := ih same
      simp [inside, dropped, taken]
    · rw [List.cons_append, List.dropWhile_cons_of_neg inside, ← List.cons_append] at same
      obtain rfl := List.append_cancel_right same
      simp [inside]

theorem severs_var? (cs : List Char) : Severs tail (var? (cs ++ tail)) (var? cs) := by
  rcases cs with _ | ⟨c, _ | ⟨d, cs⟩⟩
  · exact .of_rest fun _ _ => rest_of_var?
  · refine .of_short fun kind rest found => ?_
    -- The name starts in what is cut off.
    cases tail with
    | nil => cases found
    | cons d inner =>
      simp only [List.cons_append, List.nil_append, var?] at found
      split at found
      · cases found
        exact Nat.lt_succ_of_le (List.dropWhile_suffix isVarChar).length_le
      · cases found
  · simp only [List.cons_append, var?]
    split
    · constructor
      · intro kind rest found
        obtain ⟨rfl, dropped⟩ := Prod.mk.inj (Option.some.inj found)
        obtain ⟨same, taken⟩ := dropWhile_cut dropped
        rw [same, taken]
      · intro none
        cases none
    · exact .of_onto rfl

theorem Severable.getLast?_run (severable : Severable tail) {cs : List Char}
    (last : ((cs ++ tail).takeWhile fun d => isNameChar d || d == '.').getLast? = some '.') :
    (cs.takeWhile fun d => isNameChar d || d == '.').getLast? = some '.' := by
  rw [List.takeWhile_append] at last
  split at last
  · next whole =>
    have all : (cs.takeWhile fun d => isNameChar d || d == '.') = cs :=
      (List.takeWhile_prefix _).eq_of_length whole
    rw [List.getLast?_append] at last
    rcases Option.or_eq_some_iff.mp last with beyond | ⟨-, here⟩
    · exact absurd beyond severable.run
    · rwa [all]
  · exact last

theorem severs_blank? (severable : Severable tail) (cs : List Char) :
    Severs tail (blank? (cs ++ tail)) (blank? cs) := by
  by_cases marked : ∃ c inner, cs = '_' :: ':' :: c :: inner
  · obtain ⟨c, inner, rfl⟩ := marked
    simp only [List.cons_append, blank?]
    constructor
    · intro kind rest found
      split at found
      · next start =>
        obtain ⟨rfl, dropped⟩ := Prod.mk.inj (Option.some.inj found)
        obtain ⟨same, taken⟩ := dropWhile_cut dropped
        rw [taken] at start ⊢
        rw [if_pos start, same]
      · cases found
    · intro none
      split at none
      · cases none
      · next start =>
        -- The run goes on with letters or not at all, so a dot that spoils it there ends it here.
        refine if_neg fun valid => start ?_
        simp only [Bool.and_eq_true, bne_iff_ne, ne_eq] at valid ⊢
        exact ⟨valid.1, fun last => valid.2 (severable.getLast?_run last)⟩
  · have absent : blank? cs = none := by
      unfold blank?
      split <;> simp_all
    rw [absent]
    refine .of_short fun kind rest found => ?_
    unfold blank? at found
    split at found
    · next c inner same =>
      have beyond := length_lt_of_short ['_', ':', c] same fun rest whole => marked ⟨c, rest, whole⟩
      dsimp only at found
      split at found
      · cases found
        exact Nat.lt_of_le_of_lt (List.dropWhile_suffix _).length_le beyond
      · cases found
    · cases found

theorem severs_anon? (cs : List Char) : Severs tail (anon? (cs ++ tail)) (anon? cs) := by
  cases cs with
  | nil => exact .of_rest fun _ _ => rest_of_anon?
  | cons c cs =>
    by_cases mark : c = '['
    · subst mark
      simp only [List.cons_append, anon?]
      constructor
      · intro kind rest found
        split at found
        · next inner dropped =>
          obtain ⟨rfl, rfl⟩ := Prod.mk.inj (Option.some.inj found)
          have cut := dropWhile_cut (show _ = (']' :: rest) ++ tail from dropped)
          simp only [cut.1]
        · cases found
      · intro none
        rw [List.dropWhile_append] at none
        split
        · next inner dropped => simp [dropped] at none
        · rfl
    · exact .of_onto (by rw [List.cons_append, anon?_eq_none _ mark, anon?_eq_none _ mark]; rfl)

theorem severs_langTag? (cs : List Char) : Severs tail (langTag? (cs ++ tail)) (langTag? cs) := by
  cases cs with
  | nil => exact .of_rest fun _ _ => rest_of_langTag?
  | cons c cs =>
    by_cases mark : c = '@'
    · subst mark
      simp only [List.cons_append, langTag?]
      constructor
      · intro kind rest found
        split at found
        · cases found
        · next nonempty =>
          obtain ⟨rfl, dropped⟩ := Prod.mk.inj (Option.some.inj found)
          obtain ⟨same, taken⟩ := dropWhile_cut dropped
          rw [taken] at nonempty ⊢
          simp only [same]
      · intro none
        split at none
        · next taken =>
          have empty : cs.takeWhile isTagChar = [] := by
            cases cs with
            | nil => rfl
            | cons d cs => by_cases inside : isTagChar d = true <;> simp_all
          rw [empty]
        · cases none
    · exact .of_onto (by rw [List.cons_append, langTag?_eq_none _ mark, langTag?_eq_none _ mark]; rfl)

/-! ### Labels and names -/

theorem length_of_localBody? {cs body rest : List Char} (found : localBody? cs = some (body, rest)) :
    body.length + rest.length ≤ cs.length := by
  fun_induction localBody? cs generalizing body with
  | case1 => cases found; simp
  | case2 a b cs _ ih =>
    obtain ⟨_, _, -, first, rfl⟩ := prepend_eq_some found
    obtain ⟨_, _, -, second, rfl⟩ := prepend_eq_some first
    obtain ⟨_, _, -, third, rfl⟩ := prepend_eq_some second
    have := ih third
    simp only [List.length_cons]
    omega
  | case3 | case5 | case9 => cases found
  | case4 c cs _ ih | case6 c cs _ _ _ ih | case7 cs _ _ _ _ ih =>
    obtain ⟨_, _, -, inner, rfl⟩ := prepend_eq_some found
    have := ih inner
    simp only [List.length_cons]
    omega
  | case8 | case10 => cases found; simp

theorem ne_nil_of_localBody? {cs body rest : List Char} (continues : localContinues cs = true)
    (found : localBody? cs = some (body, rest)) : body ≠ [] := by
  fun_induction localBody? cs with
  | case1 => cases continues
  | case2 | case4 | case6 | case7 =>
    obtain ⟨_, _, -, -, rfl⟩ := prepend_eq_some found
    simp
  | case3 | case5 | case9 => cases found
  | case8 | case10 => simp_all [localContinues]

theorem localBody?_beyond {body rest : List Char} (found : localBody? tail = some (body, rest ++ tail)) :
    body = [] ∧ rest = [] := by
  have short := length_of_localBody? found
  simp only [List.length_append] at short
  exact ⟨List.length_eq_zero_iff.mp (by omega), List.length_eq_zero_iff.mp (by omega)⟩

theorem severs_final_dot (severable : Severable tail) : Severs tail (localBody? ('.' :: tail)) (some ([], ['.'])) := by
  -- A dot at the end of the text would go on in what is cut off only with some of it.
  rw [localBody?_cons (by decide), if_neg (by decide)]
  cases continues : localContinues tail with
  | false => exact .of_onto rfl
  | true =>
    refine ⟨fun found => ?_, fun none => ?_⟩
    · obtain ⟨_, _, -, inner, -⟩ := prepend_eq_some found
      exact absurd (localBody?_beyond inner).1 (ne_nil_of_localBody? continues inner)
    · obtain ⟨found, read⟩ := Option.ne_none_iff_exists'.mp severable.localBody?_ne_none
      rw [read] at none
      cases none

theorem length_lt_of_broken {c : Char} {cs body rest : List Char} (mark : c = '%' ∨ c = '\\')
    (percent : ∀ a b inner, c = '%' → cs = a :: b :: inner → False)
    (slash : ∀ d inner, c = '\\' → cs = d :: inner → False)
    (found : localBody? (c :: cs ++ tail) = some (body, rest)) : rest.length < tail.length := by
  rw [localBody?.eq_def] at found
  split at found
  · next same => cases same
  · next a b after same =>
    have beyond := length_lt_of_short ['%', a, b] same (by simp_all)
    split at found
    · obtain ⟨_, _, -, first, -⟩ := prepend_eq_some found
      obtain ⟨_, _, -, second, -⟩ := prepend_eq_some first
      obtain ⟨_, _, -, third, -⟩ := prepend_eq_some second
      have := length_of_localBody? third
      omega
    · cases found
  · next d after same =>
    have beyond := length_lt_of_short ['\\', d] same (by simp_all)
    split at found
    · obtain ⟨_, _, -, inner, -⟩ := prepend_eq_some found
      have := length_of_localBody? inner
      omega
    · cases found
  · next same =>
    cases same
    have unnamed : isNameChar '%' = false ∧ isNameChar '\\' = false := by decide
    rcases mark with rfl | rfl <;> simp [unnamed] at found

theorem severs_localBody? (severable : Severable tail) (cs : List Char) :
    Severs tail (localBody? (cs ++ tail)) (localBody? cs) := by
  fun_induction localBody? cs with
  | case1 =>
    refine ⟨fun found => ?_, fun none => absurd none severable.localBody?_ne_none⟩
    obtain ⟨rfl, rfl⟩ := localBody?_beyond found
    rfl
  | case2 a b cs both ih =>
    simp only [List.cons_append]
    rw [localBody?_percent, if_pos both]
    exact ((ih.prepend _).prepend _).prepend _
  | case3 a b cs other =>
    simp only [List.cons_append]
    rw [localBody?_percent, if_neg other]
    exact .of_onto rfl
  | case4 c cs escape ih =>
    simp only [List.cons_append]
    rw [localBody?_slash, if_pos escape]
    exact ih.prepend _
  | case5 c cs other =>
    simp only [List.cons_append]
    rw [localBody?_slash, if_neg other]
    exact .of_onto rfl
  | case6 c cs percent slash inside ih =>
    have plain : c ≠ '%' ∧ c ≠ '\\' := by constructor <;> (rintro rfl; exact absurd inside (by decide))
    rw [List.cons_append, localBody?_cons plain, if_pos inside]
    exact ih.prepend _
  | case7 cs continues percent slash other ih =>
    have still : localContinues (cs ++ tail) = true := by
      cases cs with
      | nil => cases continues
      | cons c cs => exact continues
    rw [List.cons_append, localBody?_cons (by decide), if_neg other, still]
    exact ih.prepend _
  | case8 cs stops percent slash other =>
    -- At the end of the text a dot is left over, and might go on with what is cut off.
    cases cs with
    | nil => exact severs_final_dot severable
    | cons c cs =>
      have still : localContinues (c :: cs ++ tail) = false := Bool.eq_false_iff.mpr stops
      rw [List.cons_append, localBody?_cons (by decide), if_neg other, still]
      exact .of_onto rfl
  | case9 c cs percent slash other dot mark =>
    exact .of_short fun _ _ => length_lt_of_broken (by simpa using mark) percent slash
  | case10 c cs percent slash other dot plain =>
    have ordinary : c ≠ '%' ∧ c ≠ '\\' := by simpa using plain
    rw [List.cons_append, localBody?_cons ordinary, if_neg other, if_neg (by simp [dot])]
    exact .of_onto rfl

theorem localContinues_of_start {c : Char} {cs : List Char}
    (start : (isLocalStart c || c == '%' || c == '\\') = true) : localContinues (c :: cs) = true := by
  simp only [localContinues, List.head?_cons, Option.any_some]
  simp only [isLocalStart, Bool.or_eq_true] at start
  simp only [isNameChar, Bool.or_eq_true]
  grind

theorem severs_localPart? (severable : Severable tail) (cs : List Char) :
    Severs tail (localPart? (cs ++ tail)) (localPart? cs) := by
  cases cs with
  | nil =>
    refine ⟨fun {body rest} found => ?_, fun _ => rfl⟩
    unfold localPart? at found
    split at found
    · cases found
    · next start =>
      split at found
      · next first =>
        rw [List.nil_append] at start
        rw [← start] at found
        have some := ne_nil_of_localBody? (localContinues_of_start first) (start ▸ found)
        exact absurd (localBody?_beyond found).1 some
      · cases found
  | cons c cs =>
    simp only [List.cons_append, localPart?]
    split
    · exact severs_localBody? severable (c :: cs)
    · exact .of_onto rfl

theorem afterColon_cut (severable : Severable tail) {label cs rest : List Char} {kind : Kind}
    (found : afterColon label (cs ++ tail) = (kind, rest ++ tail)) : afterColon label cs = (kind, rest) := by
  have severs := severs_localPart? severable cs
  unfold afterColon at found ⊢
  cases read : localPart? (cs ++ tail) with
  | some part =>
    rw [read] at found severs
    obtain ⟨body, after⟩ := part
    obtain ⟨rfl, rfl⟩ := Prod.mk.inj found
    rw [severs.found rfl]
  | none =>
    rw [read] at found severs
    obtain ⟨rfl, same⟩ := Prod.mk.inj found
    rw [severs.absent rfl, List.append_cancel_right same]

theorem severs_emptyLabel? (severable : Severable tail) (cs : List Char) :
    Severs tail (emptyLabel? (cs ++ tail)) (emptyLabel? cs) := by
  cases cs with
  | nil => exact .of_rest fun _ _ => rest_of_emptyLabel?
  | cons c cs =>
    by_cases mark : c = ':'
    · subst mark
      refine ⟨fun found => ?_, nofun⟩
      exact congrArg some (afterColon_cut severable (Option.some.inj found))
    · exact .of_onto (by rw [List.cons_append, emptyLabel?_eq_none _ mark, emptyLabel?_eq_none _ mark]; rfl)

theorem dotted_cut {cs word rest : List Char} (found : dotted (cs ++ tail) = (word, rest ++ tail)) :
    dotted cs = (word, rest) := by
  induction cs generalizing word with
  | nil =>
    have whole := dotted_append tail
    rw [List.nil_append] at found
    rw [found, ← List.append_assoc] at whole
    obtain ⟨rfl, rfl⟩ := List.append_eq_nil_iff.mp (List.append_left_eq_self.mp whole)
    rfl
  | cons c cs ih =>
    rw [List.cons_append] at found
    unfold dotted at found ⊢
    by_cases takes : (isNameChar c || (c == '.' && cs.head?.any isNameChar)) = true
    · have still : (isNameChar c || (c == '.' && (cs ++ tail).head?.any isNameChar)) = true := by
        cases cs with
        | nil => simp_all
        | cons d cs => exact takes
      rw [if_pos still] at found
      rw [if_pos takes]
      obtain ⟨rfl, same⟩ := Prod.mk.inj found
      rw [ih (Prod.ext rfl same)]
    · rw [if_neg takes]
      split at found
      · next goes =>
        -- Only a dot that the text ends in goes on, and then with what is cut off.
        obtain ⟨rfl, same⟩ := Prod.mk.inj found
        have apart := ih (Prod.ext rfl same)
        cases cs with
        | cons d cs => exact absurd goes takes
        | nil =>
          have empty : (dotted tail).1 = [] := (Prod.mk.inj apart).1.symm
          have next : tail.head?.any isNameChar = true := by
            simp only [List.head?_nil, Option.any_none, Bool.and_false, Bool.or_false] at takes
            have both : c = '.' ∧ tail.head?.any isNameChar = true := by simpa [takes] using goes
            exact both.2
          cases tail with
          | nil => cases next
          | cons d inner =>
            have name : isNameChar d = true := by simpa using next
            simp [dotted, name] at empty
      · obtain ⟨rfl, same⟩ := Prod.mk.inj found
        rw [← List.cons_append] at same
        rw [List.append_cancel_right same]

theorem severs_word? (severable : Severable tail) (cs : List Char) :
    Severs tail (word? (cs ++ tail)) (word? cs) := by
  cases cs with
  | nil => exact .of_rest fun _ _ => rest_of_word?
  | cons c cs =>
    cases letter : isLetter c with
    | false => exact .of_onto (by rw [List.cons_append, word?_eq_none _ letter, word?_eq_none _ letter]; rfl)
    | true =>
      simp only [List.cons_append, word?, letter, ↓reduceIte]
      rw [← List.cons_append]
      constructor
      · intro kind rest found
        split at found
        · next label after run =>
          have split := Option.some.inj found
          -- What is left ends in what is cut off, and so does the text after the colon.
          obtain ⟨front, rfl⟩ : ∃ front, after = front ++ tail := by
            have final := rest_of_afterColon label after
            rw [split] at final
            rcases final with same | ⟨front, -, same⟩
            · exact ⟨rest, same⟩
            · exact ⟨front ++ rest, by rw [same, List.append_assoc]⟩
          rw [dotted_cut (show _ = (label, (':' :: front) ++ tail) from run)]
          exact congrArg some (afterColon_cut severable split)
        · next word after colon run =>
          have same : after = rest ++ tail := by split at found <;> (cases found; rfl)
          subst same
          rw [dotted_cut run]
          split
          · next label inner cut =>
            obtain ⟨rfl, rfl⟩ := Prod.mk.inj cut
            exact (colon _ rfl).elim
          · next cut =>
            obtain ⟨rfl, rfl⟩ := Prod.mk.inj cut
            split at found <;> (cases found; simp_all)
      · intro none
        split at none
        · cases none
        · split at none <;> cases none

/-! ### Strings -/

inductive Escape : List Char → Prop
  | short (a b c d : Char) : Escape ['u', a, b, c, d]
  | long (a b c d e f g h : Char) : Escape ['U', a, b, c, d, e, f, g, h]
  | simple {c : Char} (known : simpleEscape? c ≠ none) : Escape [c]

def escaped? (body? : List Char → Found (List Char)) : List Char → Found (List Char)
  | [] => none
  | 'u' :: a :: b :: c :: d :: cs => prepend (hexChar? [a, b, c, d]) (body? cs)
  | 'U' :: a :: b :: c :: d :: e :: f :: g :: h :: cs => prepend (hexChar? [a, b, c, d, e, f, g, h]) (body? cs)
  | c :: cs => prepend (simpleEscape? c) (body? cs)

theorem exists_escape_of_escaped? {body? : List Char → Found (List Char)}
    (shrinks : ∀ {cs body rest}, body? cs = some (body, rest) → Rest cs rest) {cs body rest : List Char} :
    escaped? body? cs = some (body, rest) →
      ∃ front after, Escape front ∧ cs = front ++ after ∧ rest.length < after.length := by
  fun_cases escaped? body? cs with
  | case1 => exact nofun
  | case2 a b c d after =>
    intro found
    obtain ⟨_, _, -, inner, -⟩ := prepend_eq_some found
    exact ⟨_, after, .short a b c d, rfl, (shrinks inner).length_lt⟩
  | case3 a b c d e f g h after =>
    intro found
    obtain ⟨_, _, -, inner, -⟩ := prepend_eq_some found
    exact ⟨_, after, .long a b c d e f g h, rfl, (shrinks inner).length_lt⟩
  | case4 c after =>
    intro found
    obtain ⟨_, _, known, inner, -⟩ := prepend_eq_some found
    exact ⟨_, after, .simple (by simp [known]), rfl, (shrinks inner).length_lt⟩

section Quotes

variable {quote : Char}

theorem shortBody?_slash (plain : quote ≠ '\\') (cs : List Char) :
    shortBody? quote ('\\' :: cs) = escaped? (shortBody? quote) cs := by
  fun_cases escaped? (shortBody? quote) cs with
  | case1 => simp [shortBody?, plain.symm]
  | case2 | case3 => rfl
  | case4 c cs short long =>
    rw [shortBody?]
    · exact short
    · exact long

theorem longBody?_slash (plain : quote ≠ '\\') (cs : List Char) :
    longBody? quote ('\\' :: cs) = escaped? (longBody? quote) cs := by
  fun_cases escaped? (longBody? quote) cs with
  | case1 => simp [longBody?, plain.symm]
  | case2 | case3 => rfl
  | case4 c cs short long =>
    rw [longBody?]
    · exact short
    · exact long

theorem shortBody?_escaped (plain : quote ≠ '\\') {cs body rest : List Char}
    (found : shortBody? quote ('\\' :: cs) = some (body, rest)) :
    ∃ front after, Escape front ∧ cs = front ++ after ∧ rest.length < after.length := by
  rw [shortBody?_slash plain] at found
  exact exists_escape_of_escaped? rest_of_shortBody? found

theorem longBody?_escaped (plain : quote ≠ '\\') {cs body rest : List Char}
    (found : longBody? quote ('\\' :: cs) = some (body, rest)) :
    ∃ front after, Escape front ∧ cs = front ++ after ∧ rest.length < after.length := by
  rw [longBody?_slash plain] at found
  exact exists_escape_of_escaped? rest_of_longBody? found

theorem Severs.of_broken {cs : List Char} {whole : Found (List Char)}
    (escaped : ∀ body rest, whole = some (body, rest) →
      ∃ front after, Escape front ∧ cs ++ tail = front ++ after ∧ rest.length < after.length)
    (broken : ∀ front after, Escape front → cs ≠ front ++ after) : Severs tail whole none := by
  refine .of_short fun body rest found => ?_
  obtain ⟨front, after, escape, same, shorter⟩ := escaped body rest found
  exact Nat.lt_trans shorter (length_lt_of_short front same fun rest => broken front rest escape)

theorem broken_of_digits {c : Char} {cs : List Char} (announces : ¬ (c ≠ 'u' ∧ c ≠ 'U'))
    (short : ∀ a b d e rest, c = 'u' → cs = a :: b :: d :: e :: rest → False)
    (long : ∀ a b d e f g h i rest, c = 'U' → cs = a :: b :: d :: e :: f :: g :: h :: i :: rest → False) :
    simpleEscape? c = none ∧ ∀ front after, Escape front → c :: cs ≠ front ++ after := by
  have which : c = 'u' ∨ c = 'U' := by grind
  have unknown : simpleEscape? c = none := by rcases which with rfl | rfl <;> rfl
  refine ⟨unknown, fun front after escape same => ?_⟩
  cases escape with
  | short a b d e => cases same; exact short a b d e after rfl rfl
  | long a b d e f g h i => cases same; exact long a b d e f g h i after rfl rfl
  | simple known => cases same; exact known unknown

theorem Escape.ne_nil {front : List Char} (escape : Escape front) : front ≠ [] := by cases escape <;> simp

theorem severs_shortBody? (plain : quote ≠ '\\') (cs : List Char) :
    Severs tail (shortBody? quote (cs ++ tail)) (shortBody? quote cs) := by
  fun_induction shortBody? quote cs with
  | case1 => exact .of_rest fun _ _ => rest_of_shortBody?
  | case2 a b c d cs ih | case3 a b c d e f g h cs ih =>
    simp only [List.cons_append, shortBody?]
    exact ih.prepend _
  | case4 c cs short long ih =>
    -- A code with too few digits is no escape, but with what is cut off it could be one.
    by_cases simple : c ≠ 'u' ∧ c ≠ 'U'
    · simp only [List.cons_append]
      rw [shortBody?_escape quote simple]
      exact ih.prepend _
    · obtain ⟨unknown, broken⟩ := broken_of_digits simple short long
      rw [unknown]
      exact .of_broken (fun _ _ => shortBody?_escaped plain) broken
  | case5 cs =>
    rw [List.cons_append, shortBody?_cons quote plain, if_pos rfl]
    exact .of_onto rfl
  | case6 c cs short long simple ends other =>
    by_cases slash : c = '\\'
    · subst slash
      refine .of_broken (fun _ _ => shortBody?_escaped plain) fun front after escape same => ?_
      cases cs with
      | nil => exact escape.ne_nil (List.append_eq_nil_iff.mp same.symm).1
      | cons d cs => exact simple d cs rfl rfl
    · rw [List.cons_append, shortBody?_cons quote slash, if_neg ends, if_pos other]
      exact .of_onto rfl
  | case7 c cs short long simple ends other ih =>
    have unescaped : c ≠ '\\' := by rintro rfl; exact other rfl
    rw [List.cons_append, shortBody?_cons quote unescaped, if_neg ends, if_neg other]
    exact ih.prepend _

theorem severs_longBody? (plain : quote ≠ '\\') (cs : List Char) :
    Severs tail (longBody? quote (cs ++ tail)) (longBody? quote cs) := by
  fun_induction longBody? quote cs with
  | case1 => exact .of_rest fun _ _ => rest_of_longBody?
  | case2 a b c d cs ih | case3 a b c d e f g h cs ih =>
    simp only [List.cons_append, longBody?]
    exact ih.prepend _
  | case4 c cs short long ih =>
    by_cases simple : c ≠ 'u' ∧ c ≠ 'U'
    · simp only [List.cons_append]
      rw [longBody?_escape quote simple]
      exact ih.prepend _
    · obtain ⟨unknown, broken⟩ := broken_of_digits simple short long
      rw [unknown]
      exact .of_broken (fun _ _ => longBody?_escaped plain) broken
  | case5 c cs short long simple ends =>
    simp only [Bool.and_eq_true, decide_eq_true_eq, beq_iff_eq] at ends
    obtain ⟨rfl, triple⟩ := ends
    have both : (cs ++ tail).take 2 = [c, c] ∧ (cs ++ tail).drop 2 = cs.drop 2 ++ tail := by
      rcases cs with _ | ⟨a, _ | ⟨b, cs⟩⟩ <;> simp_all
    rw [List.cons_append, longBody?_cons c plain, both.1, both.2, if_pos (by simp)]
    exact .of_onto rfl
  | case6 cs short long simple ends =>
    refine .of_broken (fun _ _ => longBody?_escaped plain) fun front after escape same => ?_
    cases cs with
    | nil => exact escape.ne_nil (List.append_eq_nil_iff.mp same.symm).1
    | cons d cs => exact simple d cs rfl rfl
  | case7 c cs short long simple ends other ih =>
    rw [List.cons_append, longBody?_cons quote other]
    split
    · next closes =>
      -- The last quotes are cut off, and alone the text is too short to end the string.
      simp only [Bool.and_eq_true, decide_eq_true_eq, beq_iff_eq] at closes ends
      have few : cs.length < 2 := by
        by_contra enough
        rw [List.take_append_of_le_length (by omega)] at closes
        exact ends closes
      have unread : longBody? quote cs = none := by
        cases read : longBody? quote cs with
        | none => rfl
        | some found => exact absurd (two_le_of_longBody? read) (by omega)
      have total := congrArg List.length closes.2
      rw [unread]
      refine .of_short fun body rest found => ?_
      cases found
      simp only [List.length_take, List.length_append, List.length_cons, List.length_nil] at total
      simp only [List.length_drop, List.length_append]
      omega
    · exact ih.prepend _

end Quotes

theorem severs_string? (cs : List Char) : Severs tail (string? (cs ++ tail)) (string? cs) := by
  cases cs with
  | nil => exact .of_rest fun _ _ => rest_of_string?
  | cons quote cs =>
    by_cases mark : isQuote quote = true
    · have plain : quote ≠ '\\' := by rintro rfl; exact absurd mark (by decide)
      have shape : ∀ cs, string? (quote :: cs) =
          ((if cs.take 2 == [quote, quote] then longBody? quote (cs.drop 2) else none).or (shortBody? quote cs)).map
            (Prod.map (fun body => Kind.string (String.ofList body)) id) := by
        intro cs
        have mark' : (decide (quote = '"') || decide (quote = '\'')) = true := mark
        simp only [string?, mark', ↓reduceIte, Option.orElse_eq_orElse, Option.orElse_eq_or]
        rfl
      rw [List.cons_append, shape, shape]
      refine Severs.map (.or ?_ (severs_shortBody? plain cs)) fun body => Kind.string (String.ofList body)
      -- What opens the long form may be cut apart itself.
      have opened : ∀ n body rest, (if (List.take 2 (cs ++ tail) == [quote, quote]) = true then
          longBody? quote (tail.drop n) else none) = some (body, rest) → rest.length < tail.length := by
        intro n body rest found
        split at found
        · have := (rest_of_longBody? found).length_lt
          rw [List.length_drop] at this
          omega
        · cases found
      rcases cs with _ | ⟨c, _ | ⟨d, cs⟩⟩
      · exact .of_short (opened 2)
      · have single : ¬ ([c].take 2 == [quote, quote]) = true := by simp
        rw [if_neg single]
        exact .of_short (opened 1)
      · simp only [List.cons_append, List.take_succ_cons, List.take_zero, List.drop_succ_cons, List.drop_zero]
        split
        · exact severs_longBody? plain cs
        · exact .of_onto rfl
    · have quoteless : quote ≠ '"' ∧ quote ≠ '\'' := by simpa [isQuote] using mark
      refine .of_onto ?_
      rw [List.cons_append, string?_eq_none _ quoteless.1 quoteless.2, string?_eq_none _ quoteless.1 quoteless.2]
      rfl

theorem severs_punct? (cs : List Char) : Severs tail (punct? (cs ++ tail)) (punct? cs) := by
  cases cs with
  | nil => exact .of_rest fun _ _ => rest_of_punct?
  | cons c cs =>
    refine .of_onto ?_
    simp only [List.cons_append, punct?]
    cases punctOf? c <;> rfl

/-- The token at the front of a text is the same when the text is cut off behind it. -/
theorem scanOne?_cut (severable : Severable tail) {cs rest : List Char} {kind : Kind}
    (unopened : ∀ inner, cs ++ tail ≠ '$' :: '\x7b' :: inner)
    (found : scanOne? (cs ++ tail) = some (kind, rest ++ tail)) : scanOne? cs = some (kind, rest) := by
  have placeholders : Severs tail (placeholder? (cs ++ tail)) (placeholder? cs) := by
    have alone : ∀ inner, cs ≠ '$' :: '\x7b' :: inner := by
      rintro inner rfl
      exact unopened (inner ++ tail) rfl
    rw [placeholder?_other unopened, placeholder?_other alone]
    exact .of_onto rfl
  have ends := severable.endsNumber
  have numbers : Severs tail _ _ := (Severs.of_onto (double?_before ends cs)).or <|
    (Severs.of_onto (decimal?_before ends cs)).or <| (Severs.of_onto (integer?_before ends cs)).or (severs_punct? cs)
  have words : Severs tail _ _ := (severs_langTag? cs).or <| (severs_emptyLabel? severable cs).or <|
    (severs_word? severable cs).or <| (severs_string? cs).or numbers
  have every : Severs tail (scanOne? (cs ++ tail)) (scanOne? cs) := (severs_operator? cs).or <| (severs_iri? cs).or <|
    placeholders.or <| (severs_var? cs).or <| (severs_blank? severable cs).or <| (severs_anon? cs).or words
  exact every.found found

end Readers

/-! ## The start of a table -/

theorem of_word?_keyword {cs after : List Char} {k : Keyword} (found : word? cs = some (.keyword k, after)) :
    ∃ word, dotted cs = (word, after) ∧ Keyword.ofWord? word = some k ∧ ∀ rest, after ≠ ':' :: rest := by
  unfold word? at found
  split at found
  · cases found
  · split at found
    · split at found
      · next label rest run =>
        have same := Option.some.inj found
        unfold afterColon at same
        split at same <;> cases same
      · next word rest colon run =>
        split at found
        · next key =>
          cases found
          exact ⟨word, run, key, fun rest same => colon rest same⟩
        · cases found
    · cases found

theorem isLetter_of_toUpper {c : Char} (upper : isLetter c.toUpper = true) : isLetter c = true := by
  unfold Char.toUpper at upper
  split at upper
  · next small =>
    have bounds : 0x61 ≤ c.toNat ∧ c.toNat ≤ 0x7A := by simpa [UInt32.le_iff_toNat_le] using small
    simp [isLetter, between, bounds]
  · exact upper

theorem toUpper_of_ofWord? {word : List Char} {k : Keyword} (found : Keyword.ofWord? word = some k)
    (caseless : k ≠ .aKw) : word.map Char.toUpper = k.text.toList.map Char.toUpper := by
  unfold Keyword.ofWord? at found
  split at found
  · cases found; exact absurd rfl caseless
  · have same := List.find?_some found
    exact (eq_of_beq same).symm

theorem dotted_stops {cs word after : List Char} {c : Char} (run : dotted cs = (word, c :: after)) :
    isNameChar c = false := by
  induction cs generalizing word with
  | nil => cases run
  | cons d cs ih =>
    unfold dotted at run
    split at run
    · exact ih (Prod.ext rfl (Prod.mk.inj run).2)
    · next outside =>
      cases run
      simp only [Bool.or_eq_true, not_or, Bool.not_eq_true] at outside
      exact outside.1

def opensTable : Kind → Bool
  | .punct .lparen | .punct .lbrace | .var _ => true
  | _ => false

theorem not_opensTable {c : Char} {cs after : List Char} {kind : Kind} (mark : c ∈ ['.', '%', '\\', '+'])
    (scanned : scanOne? (c :: cs) = some (kind, after)) : opensTable kind = false := by
  have every : ∀ d ∈ ['.', '%', '\\', '+'], d ∉ '"' :: '\'' :: special ∧ isLetter d = false :=
    List.all_iff_forall_prop.mp (by decide)
  obtain ⟨plain, letter⟩ := every c mark
  rw [scanOne?_plain cs plain letter] at scanned
  simp only [Option.or_eq_some_iff] at scanned
  rcases scanned with double | ⟨-, decimal | ⟨-, integer | ⟨-, punct⟩⟩⟩
  · obtain ⟨_, -, double⟩ := Option.bind_eq_some_iff.mp double
    obtain ⟨_, -, same⟩ := Option.map_eq_some_iff.mp double
    cases same
    rfl
  · obtain ⟨_, -, decimal⟩ := Option.bind_eq_some_iff.mp decimal
    dsimp only at decimal
    split at decimal <;> cases decimal
    rfl
  · unfold integer? at integer
    repeat' split at integer
    all_goals cases integer
    rfl
  · obtain ⟨found, known, same⟩ := Option.map_eq_some_iff.mp punct
    have others : ∀ d ∈ ['.', '%', '\\', '+'], ∀ m ∈ punctOf? d, opensTable (.punct m) = false :=
      List.all_iff_forall_prop.mp (by decide)
    cases same
    exact others c mark found known

theorem severable_of_keyword {cs after : List Char} {k : Keyword} {kind : Kind} {kinds : List Kind}
    (which : k = .values ∨ k = .bindings) (scanned : scanOne? cs = some (.keyword k, after))
    (later : Lexes after (kind :: kinds)) (opens : opensTable kind = true) : Severable cs := by
  obtain ⟨word, run, spelt, colon⟩ := of_word?_keyword (word?_of_keyword scanned)
  have whole := dotted_append cs
  rw [run] at whole
  have upper := toUpper_of_ofWord? spelt (by rcases which with rfl | rfl <;> simp)
  have letters : ∀ c ∈ word, isLetter c = true := by
    intro c member
    apply isLetter_of_toUpper
    have among : c.toUpper ∈ k.text.toList.map Char.toUpper := upper ▸ List.mem_map_of_mem member
    have every : ∀ d ∈ k.text.toList.map Char.toUpper, isLetter d = true := by
      rcases which with rfl | rfl <;> exact List.all_eq_true.mp (by decide)
    exact every _ among
  refine ⟨⟨word, after, whole.symm, letters, ?_⟩, ?_⟩
  · intro c first
    cases after with
    | nil => cases first
    | cons d after =>
      obtain rfl : d = c := by simpa using first
      have name := dotted_stops run
      have apart : d ≠ ':' := fun same => colon after (by rw [same])
      -- A mark right after the keyword would start the next token, and no token that opens a table starts so.
      have marks : d ∉ ['.', '%', '\\', '+'] := by
        intro mark
        have every : ∀ e ∈ ['.', '%', '\\', '+'], isSpace e = false ∧ e ≠ '#' :=
          List.all_iff_forall_prop.mp (by decide)
        have front : skip (d :: after) = d :: after := by simp [skip, skipFrom, every d mark]
        cases later with
        | done skipped => cases opens
        | token skipped first _ =>
          rw [front] at skipped
          obtain ⟨rfl, rfl⟩ := List.cons.inj skipped
          rw [not_opensTable mark first] at opens
          cases opens
      simp_all [goesOn]
  · intro c first
    have heads : (k.text.toList.map Char.toUpper).head? ≠ some 'E' ∧ k.text.toList.map Char.toUpper ≠ [] := by
      rcases which with rfl | rfl <;> decide
    rw [← upper] at heads
    cases word with
    | nil => exact absurd rfl heads.2
    | cons d word =>
      obtain rfl : d = c := by simpa [← whole] using first
      have other : d.toUpper ≠ 'E' := by simpa using heads.1
      have both : d ≠ 'e' ∧ d ≠ 'E' := by constructor <;> rintro rfl <;> exact absurd other (by decide)
      simpa [isExponentMark] using both

/-! ## A text that is cut before a token -/

theorem skip_cut {cs word : List Char} (nonempty : word ≠ []) (skipped : skip (cs ++ tail) = word ++ tail) :
    skip cs = word := by
  by_cases done : skipFrom false cs = []
  · have short := (skipFrom_suffix (skipsInto false cs) tail).length_le
    rw [← skipFrom_past done tail, show skipFrom false (cs ++ tail) = _ from skipped, List.length_append] at short
    have := List.length_pos_iff.mpr nonempty
    omega
  · have same := skipFrom_append done tail
    rw [show skipFrom false (cs ++ tail) = _ from skipped] at same
    exact (List.append_cancel_right same).symm

theorem exists_rest_of_firm {cs removed front rest : List Char} {last : Char} (kept : last ∉ removed)
    (same : cs ++ removed = front ++ last :: rest) :
    ∃ inner, cs = front ++ last :: inner ∧ rest = inner ++ removed := by
  rcases List.append_eq_append_iff.mp same with ⟨beyond, rfl, cut⟩ | ⟨inner, rfl, cut⟩
  · exact absurd (by rw [cut]; simp) kept
  · cases inner with
    | nil => exact absurd (by rw [show removed = last :: rest from cut.symm]; simp) kept
    | cons c inner =>
      obtain ⟨rfl, rfl⟩ := List.cons.inj cut
      exact ⟨inner, rfl, rfl⟩

/-- A text that goes on to a token has the tokens before it also alone, without the white space at its end. -/
theorem Reaches.cut {cs removed after : List Char} {used : List Kind} (severable : Severable (removed ++ after))
    (loose : ∀ c ∈ removed, isFirm c = false) (unopened : ¬ ['$', '\x7b'] <:+: cs ++ (removed ++ after))
    (reaches : Reaches (cs ++ (removed ++ after)) used after) : Lexes cs (used ++ [Kind.eof]) := by
  generalize shape : cs ++ (removed ++ after) = whole at reaches
  induction reaches generalizing cs with
  | @here whole after skipped =>
    -- Only what is skipped stands before the token, so the text alone holds nothing else.
    refine .done ?_
    by_contra starts
    have same := skipFrom_append starts (removed ++ after)
    rw [shape, show skipFrom false whole = after from skipped, ← List.append_assoc] at same
    obtain ⟨none, -⟩ := List.append_eq_nil_iff.mp (List.append_left_eq_self.mp same.symm)
    exact starts none
  | @token whole rest middle after c kind used skipped scanned later ih =>
    obtain ⟨between, rfl⟩ := later.suffix
    obtain ⟨front, last, firm, ends⟩ := ends_of_scanOne? scanned
    have inside : c :: rest <:+ whole := skipped ▸ skipFrom_suffix false whole
    have unopenedRest : ¬ ['$', '\x7b'] <:+: c :: rest := fun found => unopened (shape ▸ found.trans inside.isInfix)
    obtain ⟨gap, start⟩ := inside
    rw [ends] at start
    -- The token ends before what is removed, since it ends in a character that is not.
    have aligned : cs ++ removed = (gap ++ front) ++ last :: between := by
      apply (List.append_left_inj after).mp
      simpa [shape] using start.symm
    have kept : last ∉ removed := by
      intro member
      rw [loose last member] at firm
      cases firm
    obtain ⟨inner, text, rfl⟩ := exists_rest_of_firm kept aligned
    have ends : c :: rest = (front ++ last :: inner) ++ (removed ++ after) := by simpa using ends
    have alone : skip cs = front ++ last :: inner := by
      apply skip_cut (by simp)
      rw [shape, skipped, ends]
    have first : scanOne? (front ++ last :: inner) = some (kind, inner) := by
      apply scanOne?_cut severable
      · intro more same
        rw [ends, same] at unopenedRest
        exact unopenedRest ⟨[], more, rfl⟩
      · rw [← ends, scanned, List.append_assoc]
    have unopenedInner : ¬ ['$', '\x7b'] <:+: inner ++ (removed ++ after) := by
      intro found
      rw [ends, List.append_assoc, List.cons_append] at unopenedRest
      exact unopenedRest (found.trans (((List.suffix_cons last _).trans (List.suffix_append front _)).isInfix))
    have others := ih severable unopenedInner (List.append_assoc _ _ _).symm
    obtain ⟨d, ds, same⟩ : ∃ d ds, front ++ last :: inner = d :: ds := List.exists_cons_of_ne_nil (by simp)
    rw [same] at alone first
    exact .token alone first others

end TemplateQuery.Token
