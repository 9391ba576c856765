import TemplateQuery.Proofs.Token.Lexing

/-! Readers before a blank. Most of them look no further than the blank, so that they find in a text what they find in
it when a blank and other text follow. Two look for an end arbitrarily far ahead: a placeholder for its closing brace,
and a long string for its closing quotes. -/

set_option autoImplicit false

namespace TemplateQuery.Token

open Text

section Readers

variable {α : Type} {sep : Char} {more : List Char}

theorem isSpace_cases (space : isSpace sep = true) : sep = ' ' ∨ sep = '\t' ∨ sep = '\r' ∨ sep = '\n' := by
  simpa [isSpace, or_assoc] using space

@[elab_as_elim]
theorem of_space {P : Char → Prop} (space : isSpace sep = true) (each : P ' ' ∧ P '\t' ∧ P '\r' ∧ P '\n') :
    P sep := by
  rcases isSpace_cases space with rfl | rfl | rfl | rfl
  · exact each.1
  · exact each.2.1
  · exact each.2.2.1
  · exact each.2.2.2

def Found.onto (found : Found α) (tail : List Char) : Found α := found.map fun (a, rest) => (a, rest ++ tail)

@[simp]
theorem Found.onto_none (tail : List Char) : Found.onto (none : Found α) tail = none := rfl

@[simp]
theorem Found.onto_some (found : α × List Char) (tail : List Char) :
    Found.onto (some found) tail = some (found.1, found.2 ++ tail) := rfl

theorem prepend_onto (c? : Option Char) (found : Found (List Char)) (tail : List Char) :
    prepend c? (found.onto tail) = (prepend c? found).onto tail := by
  cases c? <;> cases found <;> rfl

theorem prefix_or_blank_mem (front : List Char) {cs back : List Char} (same : cs ++ sep :: more = front ++ back) :
    (∃ rest, cs = front ++ rest) ∨ sep ∈ front := by
  rcases List.append_eq_append_iff.mp same with ⟨beyond, rfl, cut⟩ | ⟨rest, rfl, -⟩
  · cases beyond with
    | nil => exact .inl ⟨[], by simp⟩
    | cons c beyond => cases cut; exact .inr (by simp)
  · exact .inl ⟨rest, rfl⟩

theorem localBody?_nil : localBody? [] = some ([], []) := rfl

theorem localBody?_percent (a b : Char) (cs : List Char) :
    localBody? ('%' :: a :: b :: cs) =
      if isHex a && isHex b then prepend (some '%') (prepend (some a) (prepend (some b) (localBody? cs)))
      else none := rfl

theorem localBody?_slash (c : Char) (cs : List Char) :
    localBody? ('\\' :: c :: cs) = if isLocalEscape c then prepend (some c) (localBody? cs) else none := rfl

theorem localBody?_cons {c : Char} (plain : c ≠ '%' ∧ c ≠ '\\') (cs : List Char) :
    localBody? (c :: cs) =
      if isNameChar c || c = ':' then prepend (some c) (localBody? cs)
      else if c = '.' && localContinues cs then prepend (some c) (localBody? cs)
      else some ([], c :: cs) := by
  rw [localBody?.eq_def]
  split
  · next same => cases same
  · next same => exact absurd (List.cons.inj same).1 plain.1
  · next same => exact absurd (List.cons.inj same).1 plain.2
  · next same => cases same; grind

section Runs

variable {p : Char → Bool} {tail : List Char}

theorem takeWhile_before (outside : ∀ c ∈ tail.head?, p c = false) (cs : List Char) :
    (cs ++ tail).takeWhile p = cs.takeWhile p := by
  induction cs with
  | nil => cases tail <;> simp_all
  | cons c cs ih => by_cases inside : p c = true <;> simp [inside, ih]

theorem dropWhile_before (outside : ∀ c ∈ tail.head?, p c = false) (cs : List Char) :
    (cs ++ tail).dropWhile p = cs.dropWhile p ++ tail := by
  induction cs with
  | nil => cases tail <;> simp_all
  | cons c cs ih => by_cases inside : p c = true <;> simp [inside, ih]

theorem head_space (outside : p sep = false) : ∀ c ∈ (sep :: more).head?, p c = false := by simpa using outside

end Runs

def EndsNumber (tail : List Char) : Prop := ∀ c ∈ tail.head?, c.isDigit = false ∧ c ∉ ['.', 'e', 'E', '+', '-']

theorem endsNumber_space (space : isSpace sep = true) : EndsNumber (sep :: more) := by
  have outside : sep.isDigit = false ∧ sep ∉ ['.', 'e', 'E', '+', '-'] := of_space space (by decide)
  simpa [EndsNumber] using outside

section Numbers

variable {tail : List Char} (ends : EndsNumber tail)

include ends

theorem digits_before (cs : List Char) : digits (cs ++ tail) = ((digits cs).1, (digits cs).2 ++ tail) := by
  have outside : ∀ c ∈ tail.head?, c.isDigit = false := fun c first => (ends c first).1
  exact Prod.ext (takeWhile_before outside cs) (dropWhile_before outside cs)

theorem pointed?_before (trailing : Bool) (cs : List Char) :
    pointed? trailing (cs ++ tail) = (pointed? trailing cs).onto tail := by
  unfold pointed?
  rw [digits_before ends]
  rcases digits cs with ⟨whole, _ | ⟨c, after⟩⟩
  · simp only [List.nil_append]
    split
    · next same =>
      rw [(Prod.mk.inj same).2] at ends
      exact absurd (ends '.' rfl).2 (by decide)
    · rfl
  · by_cases dot : c = '.'
    · subst dot
      simp only [List.cons_append, digits_before ends]
      rcases digits after with ⟨_ | ⟨d, fraction⟩, rest⟩
      · dsimp only
        split <;> rfl
      · rfl
    · simp only [List.cons_append]
      split <;> simp_all

theorem sign_before (cs : List Char) : sign (cs ++ tail) = ((sign cs).1, (sign cs).2 ++ tail) := by
  cases cs with
  | nil =>
    rw [List.nil_append]
    unfold sign
    split
    · exact absurd (ends '+' rfl).2 (by decide)
    · exact absurd (ends '-' rfl).2 (by decide)
    · rfl
  | cons c cs =>
    rw [List.cons_append]
    unfold sign
    split <;> simp_all

theorem unmarked_before (cs : List Char) :
    (cs ++ tail).head?.any isExponentMark = cs.head?.any isExponentMark := by
  cases cs with
  | cons c cs => rfl
  | nil =>
    cases tail with
    | nil => rfl
    | cons c tail =>
      have outside := (ends c rfl).2
      simp_all [isExponentMark]

theorem exponent?_before (cs : List Char) : exponent? (cs ++ tail) = (exponent? cs).onto tail := by
  cases cs with
  | nil =>
    have unmarked := unmarked_before ends []
    cases tail with
    | nil => rfl
    | cons c tail =>
      have outside : isExponentMark c = false := by simpa using unmarked
      simp [exponent?, outside]
  | cons e cs =>
    simp only [List.cons_append, exponent?, sign_before ends, digits_before ends]
    split
    · rcases digits (sign cs).2 with ⟨_ | ⟨d, power⟩, rest⟩ <;> rfl
    · rfl

theorem double?_before (cs : List Char) : double? (cs ++ tail) = (double? cs).onto tail := by
  unfold double?
  rw [pointed?_before ends, digits_before ends]
  cases pointed? true cs with
  | some found =>
    simp only [Found.onto_some, Option.bind_some, exponent?_before ends]
    cases exponent? found.2 <;> rfl
  | none =>
    rcases digits cs with ⟨_ | ⟨d, mantissa⟩, rest⟩
    · rfl
    · simp only [Found.onto_none, Option.bind_some, exponent?_before ends]
      cases exponent? rest <;> rfl

theorem decimal?_before (cs : List Char) : decimal? (cs ++ tail) = (decimal? cs).onto tail := by
  unfold decimal?
  rw [pointed?_before ends]
  cases pointed? false cs with
  | none => rfl
  | some found =>
    simp only [Found.onto_some, Option.bind_some, unmarked_before ends]
    split <;> rfl

theorem integer?_before (cs : List Char) : integer? (cs ++ tail) = (integer? cs).onto tail := by
  unfold integer?
  rw [digits_before ends]
  rcases digits cs with ⟨_ | ⟨d, text⟩, rest⟩
  · rfl
  · simp only [unmarked_before ends]
    split <;> rfl

end Numbers

section Space

variable (space : isSpace sep = true)

include space

theorem hexNumber?_of_blank {ds : List Char} (blank : sep ∈ ds) : hexNumber? ds = none := by
  have unhex : hexValue? sep = none := of_space space (by decide)
  have stuck : ∀ ds : List Char,
      ds.foldl (fun n? c => n?.bind fun n => (hexValue? c).map (n * 16 + ·)) none = none := by
    intro ds
    induction ds with
    | nil => rfl
    | cons d ds ih => exact ih
  obtain ⟨front, back, rfl⟩ := List.append_of_mem blank
  rw [hexNumber?, List.foldl_append, List.foldl_cons]
  rw [unhex]
  cases front.foldl (fun n? c => n?.bind fun n => (hexValue? c).map (n * 16 + ·)) (some 0) <;> exact stuck back

theorem hexChar?_of_blank {ds : List Char} (blank : sep ∈ ds) : hexChar? ds = none := by
  rw [hexChar?, hexNumber?_of_blank space blank]
  rfl

theorem iriBody?_before (cs : List Char) : iriBody? (cs ++ sep :: more) = (iriBody? cs).onto (sep :: more) := by
  fun_induction iriBody? cs with
  | case1 => rcases isSpace_cases space with rfl | rfl | rfl | rfl <;> rfl
  | case2 a b c d cs ih => simp only [List.cons_append, iriBody?, ih, prepend_onto]
  | case3 a b c d e f g h cs ih => simp only [List.cons_append, iriBody?, ih, prepend_onto]
  | case4 cs => simp [iriBody?]
  | case5 c cs short long close inside ih =>
    have slash : c ≠ '\\' := by rintro rfl; cases inside
    rw [List.cons_append, iriBody?_cons slash, if_neg close, if_pos inside, ih, prepend_onto]
  | case6 c cs short long close outside =>
    -- The digits of an escape that is broken off would have to go on with the blank.
    rw [List.cons_append, iriBody?.eq_def]
    split
    · next same => cases same
    · next a b c d rest same =>
      obtain ⟨rfl, later⟩ := List.cons.inj same
      rcases prefix_or_blank_mem ['u', a, b, c, d] later with ⟨others, whole⟩ | blank
      · exact absurd whole (short a b c d others rfl)
      · have beyond : sep ≠ 'u' := of_space space (by decide)
        rw [hexChar?_of_blank space (by simpa [beyond] using blank)]
        rfl
    · next a b c d e f g h rest same =>
      obtain ⟨rfl, later⟩ := List.cons.inj same
      rcases prefix_or_blank_mem ['U', a, b, c, d, e, f, g, h] later with ⟨others, whole⟩ | blank
      · exact absurd whole (long a b c d e f g h others rfl)
      · have beyond : sep ≠ 'U' := of_space space (by decide)
        rw [hexChar?_of_blank space (by simpa [beyond] using blank)]
        rfl
    · simp_all

theorem iri?_before (cs : List Char) : iri? (cs ++ sep :: more) = (iri? cs).onto (sep :: more) := by
  cases cs with
  | nil => rcases isSpace_cases space with rfl | rfl | rfl | rfl <;> rfl
  | cons c cs =>
    by_cases angle : c = '<'
    · subst angle
      simp only [List.cons_append, iri?, iriBody?_before space]
      cases iriBody? cs <;> rfl
    · rw [List.cons_append, iri?_eq_none _ angle, iri?_eq_none _ angle]
      rfl

theorem operator?_before (cs : List Char) : operator? (cs ++ sep :: more) = (operator? cs).onto (sep :: more) := by
  rcases cs with _ | ⟨c, _ | ⟨d, cs⟩⟩
  · rcases isSpace_cases space with rfl | rfl | rfl | rfl <;> rfl
  · have unpaired : sep ∉ ['^', '|', '&', '='] := of_space space (by decide)
    simp only [List.cons_append, List.nil_append]
    unfold operator?
    split <;> simp_all
  · simp only [List.cons_append]
    unfold operator?
    split <;> simp_all

theorem var?_before (cs : List Char) : var? (cs ++ sep :: more) = (var? cs).onto (sep :: more) := by
  have outside : isVarStart sep = false ∧ isVarChar sep = false := of_space space (by decide)
  have unmarked : sep ≠ '?' ∧ sep ≠ '$' := of_space space (by decide)
  rcases cs with _ | ⟨c, _ | ⟨d, cs⟩⟩
  · rw [List.nil_append, var?_eq_none more unmarked.1 unmarked.2]
    rfl
  · simp [var?, outside.1]
  · simp only [List.cons_append, var?, takeWhile_before (head_space outside.2),
      dropWhile_before (head_space outside.2)]
    split <;> rfl

theorem blank?_before (cs : List Char) : blank? (cs ++ sep :: more) = (blank? cs).onto (sep :: more) := by
  by_cases marked : ∃ c rest, cs = '_' :: ':' :: c :: rest
  · obtain ⟨c, rest, rfl⟩ := marked
    have outside : (isNameChar sep || sep == '.') = false := of_space space (by decide)
    simp only [List.cons_append, blank?]
    rw [takeWhile_before (p := fun d => isNameChar d || d == '.') (head_space outside),
      dropWhile_before (p := fun d => isNameChar d || d == '.') (head_space outside)]
    split <;> rfl
  · have absent : blank? cs = none := by
      unfold blank?
      split <;> simp_all
    rw [absent]
    unfold blank?
    split
    · next c rest same =>
      rcases prefix_or_blank_mem ['_', ':', c] same with ⟨others, whole⟩ | blank
      · exact absurd ⟨c, others, whole⟩ marked
      · have unmarked : sep ≠ '_' ∧ sep ≠ ':' := of_space space (by decide)
        have unfit : (isLetterOrUnderscore sep || sep.isDigit) = false := of_space space (by decide)
        obtain rfl : sep = c := by simpa [unmarked] using blank
        simp [unfit]
    · rfl

theorem langTag?_before (cs : List Char) : langTag? (cs ++ sep :: more) = (langTag? cs).onto (sep :: more) := by
  cases cs with
  | nil => rcases isSpace_cases space with rfl | rfl | rfl | rfl <;> rfl
  | cons c cs =>
    by_cases mark : c = '@'
    · subst mark
      have outside : isTagChar sep = false := of_space space (by decide)
      simp only [List.cons_append, langTag?, takeWhile_before (head_space outside),
        dropWhile_before (head_space outside)]
      split <;> rfl
    · rw [List.cons_append, langTag?_eq_none _ mark, langTag?_eq_none _ mark]
      rfl

theorem anon?_before {d : Char} (shut : isSpace d = false ∧ d ≠ ']') (cs : List Char) :
    anon? (cs ++ sep :: d :: more) = (anon? cs).onto (sep :: d :: more) := by
  -- Space may stand inside the brackets of an anonymous node, so that what comes after the blank matters.
  have dropped : ∀ cs : List Char, (cs ++ sep :: d :: more).dropWhile isSpace =
      if cs.dropWhile isSpace = [] then d :: more else cs.dropWhile isSpace ++ sep :: d :: more := by
    intro cs
    induction cs with
    | nil => simp [space, shut.1]
    | cons c cs ih => by_cases blank : isSpace c = true <;> simp [blank, ih]
  cases cs with
  | nil => rcases isSpace_cases space with rfl | rfl | rfl | rfl <;> rfl
  | cons c cs =>
    by_cases mark : c = '['
    · subst mark
      simp only [List.cons_append, anon?, dropped]
      cases inside : cs.dropWhile isSpace with
      | nil =>
        simp only [↓reduceIte, Found.onto_none]
        split
        · next same => exact absurd (List.cons.inj same).1 shut.2
        · rfl
      | cons e rest =>
        by_cases close : e = ']' <;> simp [close]
    · rw [List.cons_append, anon?_eq_none _ mark, anon?_eq_none _ mark]
      rfl

theorem localContinues_before (cs : List Char) : localContinues (cs ++ sep :: more) = localContinues cs := by
  cases cs with
  | nil => rcases isSpace_cases space with rfl | rfl | rfl | rfl <;> rfl
  | cons c cs => rfl

theorem localBody?_before (cs : List Char) :
    localBody? (cs ++ sep :: more) = (localBody? cs).onto (sep :: more) := by
  fun_induction localBody? cs with
  | case1 => rcases isSpace_cases space with rfl | rfl | rfl | rfl <;> rfl
  | case2 a b cs both ih =>
    simp only [List.cons_append]
    rw [localBody?_percent, if_pos both, ih, prepend_onto, prepend_onto, prepend_onto]
  | case3 a b cs other =>
    simp only [List.cons_append]
    rw [localBody?_percent, if_neg other]
    rfl
  | case4 c cs escape ih =>
    simp only [List.cons_append]
    rw [localBody?_slash, if_pos escape, ih, prepend_onto]
  | case5 c cs other =>
    simp only [List.cons_append]
    rw [localBody?_slash, if_neg other]
    rfl
  | case6 c cs percent slash inside ih =>
    have plain : c ≠ '%' ∧ c ≠ '\\' := by constructor <;> (rintro rfl; exact absurd inside (by decide))
    rw [List.cons_append, localBody?_cons plain, if_pos inside, ih, prepend_onto]
  | case7 cs continues percent slash other ih =>
    rw [List.cons_append, localBody?_cons (by decide), if_neg other, localContinues_before space, continues, ih,
      ← prepend_onto]
    rfl
  | case8 cs stops percent slash other =>
    rw [List.cons_append, localBody?_cons (by decide), if_neg other, localContinues_before space,
      if_neg (by simpa using stops)]
    rfl
  | case9 c cs percent slash other dot mark =>
    -- An escape that the text breaks off in would have to go on with the blank.
    rw [List.cons_append, localBody?.eq_def]
    split
    · next same => cases same
    · next a b rest same =>
      obtain ⟨rfl, later⟩ := List.cons.inj same
      rcases prefix_or_blank_mem [a, b] later with ⟨others, whole⟩ | blank
      · exact absurd whole (percent a b others rfl)
      · have unhex : (isHex a && isHex b) = false := by
          have none : isHex sep = false := of_space space (by decide)
          have either : sep = a ∨ sep = b := by simpa using blank
          rcases either with rfl | rfl <;> simp [none]
        simp [unhex]
    · next d rest same =>
      obtain ⟨rfl, later⟩ := List.cons.inj same
      rcases prefix_or_blank_mem [d] later with ⟨others, whole⟩ | blank
      · exact absurd whole (slash d others rfl)
      · have unescaped : isLocalEscape sep = false := of_space space (by decide)
        obtain rfl : sep = d := by simpa using blank
        simp [unescaped]
    · simp_all
  | case10 c cs percent slash other dot plain =>
    have ordinary : c ≠ '%' ∧ c ≠ '\\' := by simpa using plain
    rw [List.cons_append, localBody?_cons ordinary, if_neg other, if_neg (by simp [dot])]
    rfl

theorem localPart?_before (cs : List Char) :
    localPart? (cs ++ sep :: more) = (localPart? cs).onto (sep :: more) := by
  cases cs with
  | nil => rcases isSpace_cases space with rfl | rfl | rfl | rfl <;> rfl
  | cons c cs =>
    simp only [List.cons_append, localPart?]
    rw [← List.cons_append, localBody?_before space]
    split <;> rfl

theorem afterColon_before (label cs : List Char) :
    afterColon label (cs ++ sep :: more) = ((afterColon label cs).1, (afterColon label cs).2 ++ sep :: more) := by
  unfold afterColon
  rw [localPart?_before space]
  cases localPart? cs <;> rfl

theorem emptyLabel?_before (cs : List Char) :
    emptyLabel? (cs ++ sep :: more) = (emptyLabel? cs).onto (sep :: more) := by
  cases cs with
  | nil => rcases isSpace_cases space with rfl | rfl | rfl | rfl <;> rfl
  | cons c cs =>
    by_cases mark : c = ':'
    · subst mark
      simp only [List.cons_append, emptyLabel?, afterColon_before space, Found.onto_some]
    · rw [List.cons_append, emptyLabel?_eq_none _ mark, emptyLabel?_eq_none _ mark]
      rfl

theorem dotted_before (cs : List Char) :
    dotted (cs ++ sep :: more) = ((dotted cs).1, (dotted cs).2 ++ sep :: more) := by
  have outside : isNameChar sep = false := of_space space (by decide)
  induction cs with
  | nil => rcases isSpace_cases space with rfl | rfl | rfl | rfl <;> rfl
  | cons c cs ih =>
    have next : (cs ++ sep :: more).head?.any isNameChar = cs.head?.any isNameChar := by
      cases cs with
      | nil => simp [outside]
      | cons d cs => rfl
    simp only [List.cons_append, dotted, next, ih]
    split <;> rfl

theorem word?_before (cs : List Char) : word? (cs ++ sep :: more) = (word? cs).onto (sep :: more) := by
  cases cs with
  | nil => rcases isSpace_cases space with rfl | rfl | rfl | rfl <;> rfl
  | cons c cs =>
    by_cases letter : isLetter c = true
    · simp only [List.cons_append, word?, letter, ↓reduceIte]
      rw [← List.cons_append, dotted_before space]
      rcases dotted (c :: cs) with ⟨word, _ | ⟨d, rest⟩⟩
      · simp only [List.nil_append]
        split
        · next same =>
          have colon : sep ≠ ':' := of_space space (by decide)
          exact absurd (List.cons.inj (Prod.mk.inj same).2).1 colon
        · next same =>
          cases same
          cases Keyword.ofWord? word <;> rfl
      · by_cases colon : d = ':'
        · subst colon
          simp only [List.cons_append, afterColon_before space, Found.onto_some]
        · simp only [List.cons_append]
          split
          · next same => simp_all
          · split <;> simp_all
    · simp only [Bool.not_eq_true] at letter
      rw [List.cons_append, word?_eq_none _ letter, word?_eq_none _ letter]
      rfl

theorem punct?_before (cs : List Char) : punct? (cs ++ sep :: more) = (punct? cs).onto (sep :: more) := by
  cases cs with
  | nil => rcases isSpace_cases space with rfl | rfl | rfl | rfl <;> rfl
  | cons c cs =>
    simp only [List.cons_append, punct?]
    cases punctOf? c <;> rfl

end Space

theorem shortBody?_escape (quote : Char) {c : Char} (plain : c ≠ 'u' ∧ c ≠ 'U') (cs : List Char) :
    shortBody? quote ('\\' :: c :: cs) = prepend (simpleEscape? c) (shortBody? quote cs) := by
  rw [shortBody?]
  · exact fun _ _ _ _ _ same => absurd same plain.1
  · exact fun _ _ _ _ _ _ _ _ _ same => absurd same plain.2

theorem longBody?_escape (quote : Char) {c : Char} (plain : c ≠ 'u' ∧ c ≠ 'U') (cs : List Char) :
    longBody? quote ('\\' :: c :: cs) = prepend (simpleEscape? c) (longBody? quote cs) := by
  rw [longBody?]
  · exact fun _ _ _ _ _ same => absurd same plain.1
  · exact fun _ _ _ _ _ _ _ _ _ same => absurd same plain.2

theorem shortBody?_cons (quote : Char) {c : Char} (plain : c ≠ '\\') (cs : List Char) :
    shortBody? quote (c :: cs) =
      if c = quote then some ([], cs)
      else if c = '\\' || c = '\n' || c = '\r' then none
      else prepend (some c) (shortBody? quote cs) := by
  rw [shortBody?]
  · exact fun _ _ _ _ _ same => absurd same plain
  · exact fun _ _ _ _ _ _ _ _ _ same => absurd same plain
  · exact fun _ _ same => absurd same plain

theorem longBody?_cons (quote : Char) {c : Char} (plain : c ≠ '\\') (cs : List Char) :
    longBody? quote (c :: cs) =
      if c = quote && cs.take 2 == [quote, quote] then some ([], cs.drop 2)
      else prepend (some c) (longBody? quote cs) := by
  rw [longBody?, if_neg plain]
  · exact fun _ _ _ _ _ same => absurd same plain
  · exact fun _ _ _ _ _ _ _ _ _ same => absurd same plain
  · exact fun _ _ same => absurd same plain

theorem shortBody?_before {quote : Char} (plain : quote ≠ '\\') {cs body rest : List Char}
    (found : shortBody? quote cs = some (body, rest)) : shortBody? quote (cs ++ more) = some (body, rest ++ more) := by
  fun_induction shortBody? quote cs generalizing body with
  | case1 => cases found
  | case2 a b c d cs ih =>
    obtain ⟨e, later, decoded, inner, rfl⟩ := prepend_eq_some found
    simp only [List.cons_append, shortBody?, ih inner, decoded, prepend]
  | case3 a b c d e f g h cs ih =>
    obtain ⟨e, later, decoded, inner, rfl⟩ := prepend_eq_some found
    simp only [List.cons_append, shortBody?, ih inner, decoded, prepend]
  | case4 c cs short long ih =>
    obtain ⟨e, later, decoded, inner, rfl⟩ := prepend_eq_some found
    have simple : c ≠ 'u' ∧ c ≠ 'U' := by constructor <;> (rintro rfl; cases decoded)
    simp only [List.cons_append]
    rw [shortBody?_escape quote simple, ih inner, decoded]
    rfl
  | case5 cs =>
    cases found
    rw [List.cons_append, shortBody?_cons quote plain, if_pos rfl]
  | case6 => cases found
  | case7 c cs _ _ _ ends other ih =>
    obtain ⟨e, later, decoded, inner, rfl⟩ := prepend_eq_some found
    have unescaped : c ≠ '\\' := by rintro rfl; exact other rfl
    rw [List.cons_append, shortBody?_cons quote unescaped, if_neg ends, if_neg other, ih inner, decoded]
    rfl

theorem two_le_of_longBody? {quote : Char} {cs : List Char} {found : List Char × List Char}
    (read : longBody? quote cs = some found) : 2 ≤ cs.length := by
  rcases cs with _ | ⟨c, _ | ⟨d, cs⟩⟩
  · cases read
  · have unread : longBody? quote [c] = none := by
      rw [longBody?.eq_def]
      split <;> simp_all [longBody?, prepend]
    rw [unread] at read
    cases read
  · simp

theorem longBody?_before {quote : Char} (plain : quote ≠ '\\') {cs body rest : List Char}
    (found : longBody? quote cs = some (body, rest)) : longBody? quote (cs ++ more) = some (body, rest ++ more) := by
  fun_induction longBody? quote cs generalizing body with
  | case1 => cases found
  | case2 a b c d cs ih =>
    obtain ⟨e, later, decoded, inner, rfl⟩ := prepend_eq_some found
    simp only [List.cons_append, longBody?, ih inner, decoded, prepend]
  | case3 a b c d e f g h cs ih =>
    obtain ⟨e, later, decoded, inner, rfl⟩ := prepend_eq_some found
    simp only [List.cons_append, longBody?, ih inner, decoded, prepend]
  | case4 c cs short long ih =>
    obtain ⟨e, later, decoded, inner, rfl⟩ := prepend_eq_some found
    have simple : c ≠ 'u' ∧ c ≠ 'U' := by constructor <;> (rintro rfl; cases decoded)
    simp only [List.cons_append]
    rw [longBody?_escape quote simple, ih inner, decoded]
    rfl
  | case5 c cs _ _ _ ends =>
    cases found
    simp only [Bool.and_eq_true, decide_eq_true_eq, beq_iff_eq] at ends
    obtain ⟨rfl, triple⟩ := ends
    have both : (cs ++ more).take 2 = [c, c] ∧ (cs ++ more).drop 2 = cs.drop 2 ++ more := by
      rcases cs with _ | ⟨a, _ | ⟨b, cs⟩⟩ <;> simp_all
    rw [List.cons_append, longBody?_cons c plain, both.1, both.2, if_pos (by simp)]
  | case6 => cases found
  | case7 c cs _ _ _ ends other ih =>
    obtain ⟨e, later, decoded, inner, rfl⟩ := prepend_eq_some found
    -- What ends the string has two characters at least, so no quotes come together across the end of the text.
    have same : (cs ++ more).take 2 = cs.take 2 := List.take_append_of_le_length (two_le_of_longBody? inner)
    rw [List.cons_append, longBody?_cons quote other, same, if_neg ends, ih inner, decoded]
    rfl

def isQuote (c : Char) : Bool := c = '"' || c = '\''

theorem isQuote_cases {quote : Char} (mark : isQuote quote = true) : quote = '"' ∨ quote = '\'' := by
  simpa [isQuote] using mark

theorem ne_slash_of_isQuote {quote : Char} (mark : isQuote quote = true) : quote ≠ '\\' := by
  rcases isQuote_cases mark with rfl | rfl <;> decide

def Unended (cs : List Char) : Prop :=
  ∃ quote rest, isQuote quote = true ∧ cs = quote :: quote :: quote :: rest ∧ longBody? quote rest = none

/-- Where three quotes open a string that never ends, none that follow end it. -/
def StaysOpen (cs tail : List Char) : Prop :=
  ∀ quote inner, isQuote quote = true → cs = quote :: quote :: quote :: inner → longBody? quote inner = none →
    longBody? quote (inner ++ tail) = none

theorem StaysOpen.of_ended {cs tail : List Char} (ended : ¬ Unended cs) : StaysOpen cs tail :=
  fun quote inner mark opened long => absurd ⟨quote, inner, mark, opened, long⟩ ended

theorem string?_before (space : isSpace sep = true) {cs rest : List Char} {kind : Kind}
    (found : string? cs = some (kind, rest)) (stays : StaysOpen cs (sep :: more)) :
    string? (cs ++ sep :: more) = some (kind, rest ++ sep :: more) := by
  cases cs with
  | nil => cases found
  | cons quote cs =>
    unfold string? at found
    dsimp only at found
    split at found
    · next mark =>
      have plain : quote ≠ '\\' := by rintro rfl; exact absurd mark (by decide)
      have apart : sep ≠ quote := by
        have unquoted : sep ≠ '"' ∧ sep ≠ '\'' := of_space space (by decide)
        rintro rfl
        simp [unquoted] at mark
      obtain ⟨⟨body, after⟩, read, same⟩ := Option.map_eq_some_iff.mp found
      cases same
      -- After three quotes the long form is tried first, and an empty string is read where it has no end.
      by_cases triple : ∃ inner, cs = quote :: quote :: inner
      · obtain ⟨inner, rfl⟩ := triple
        cases long : longBody? quote inner with
        | none =>
          have short : shortBody? quote (quote :: quote :: inner) = some (body, after) := by simpa [long] using read
          have still := stays quote inner mark rfl long
          have extended :
              shortBody? quote (quote :: quote :: inner ++ sep :: more) = some (body, after ++ sep :: more) :=
            shortBody?_before plain short
          simp only [List.cons_append] at extended ⊢
          simp [string?, mark, still, extended]
        | some ends =>
          have whole : ends = (body, after) := by simpa [long] using read
          subst whole
          simp [string?, mark, longBody?_before plain long]
      · have short : cs.take 2 ≠ [quote, quote] := by
          rcases cs with _ | ⟨c, _ | ⟨d, cs⟩⟩ <;> simp_all
        have still : (cs ++ sep :: more).take 2 ≠ [quote, quote] := by
          rcases cs with _ | ⟨c, _ | ⟨d, cs⟩⟩
          · intro same
            exact apart (List.cons.inj same).1
          · intro same
            exact apart (List.cons.inj (List.cons.inj same).2).1
          · simpa using short
        have text : shortBody? quote cs = some (body, after) := by simpa [short] using read
        simp [string?, mark, still, shortBody?_before plain text]
    · cases found

theorem scanOne?_quote {c : Char} (mark : isQuote c = true) (cs : List Char) :
    scanOne? (c :: cs) = string? (c :: cs) := by
  have which := isQuote_cases mark
  have rest : double? (c :: cs) = none ∧ decimal? (c :: cs) = none ∧ integer? (c :: cs) = none ∧
      punct? (c :: cs) = none := by
    rcases which with rfl | rfl <;> exact ⟨rfl, rfl, rfl, rfl⟩
  have word : word? (c :: cs) = none := by rcases which with rfl | rfl <;> exact word?_eq_none cs (by decide)
  rw [scanOne?_unmarked cs (by rcases which with rfl | rfl <;> decide), word, rest.1, rest.2.1, rest.2.2.1, rest.2.2.2]
  simp

theorem braced?_eq_none {cs : List Char} (unbraced : '\x7d' ∉ cs) (depth : Nat) : braced? depth cs = none := by
  induction cs generalizing depth with
  | nil => rfl
  | cons c cs ih =>
    have parts : '\x7d' ≠ c ∧ '\x7d' ∉ cs := by simpa using unbraced
    unfold braced?
    rw [if_neg (Ne.symm parts.1), ih parts.2, ih parts.2]
    split <;> rfl

theorem scanOne?_unbraced {cs : List Char} (unbraced : '\x7d' ∉ cs) : scanOne? ('$' :: '\x7b' :: cs) = none := by
  have noPlaceholder : placeholder? ('$' :: '\x7b' :: cs) = none := by simp [placeholder?, braced?_eq_none unbraced]
  simp only [scanOne?, noPlaceholder]
  rfl

theorem placeholder?_other {cs : List Char} (other : ∀ rest, cs ≠ '$' :: '\x7b' :: rest) : placeholder? cs = none := by
  unfold placeholder?
  split
  · next rest => exact absurd rfl (other rest)
  · rfl

theorem Found.onto_or (first second : Found α) (tail : List Char) :
    Found.onto (first.or second) tail = (first.onto tail).or (second.onto tail) := by
  cases first <;> rfl

/-- The token at the front of a text is the same where a blank follows the text. Unlike the others, placeholders and
long strings look for their end arbitrarily far ahead. -/
theorem scanOne?_before (space : isSpace sep = true) {cs rest : List Char} {kind : Kind} {d : Char}
    (shut : isSpace d = false ∧ d ≠ ']') (found : scanOne? cs = some (kind, rest))
    (unopened : ∀ rest, cs ≠ '$' :: '\x7b' :: rest) (stays : StaysOpen cs (sep :: d :: more)) :
    scanOne? (cs ++ sep :: d :: more) = some (kind, rest ++ sep :: d :: more) := by
  cases cs with
  | nil => cases found
  | cons c cs =>
    by_cases mark : isQuote c = true
    · rw [scanOne?_quote mark] at found
      rw [List.cons_append, scanOne?_quote mark, ← List.cons_append]
      exact string?_before space found stays
    · have quoteless : c ≠ '"' ∧ c ≠ '\'' := by simpa [isQuote] using mark
      have noString : ∀ cs, string? (c :: cs) = none := fun cs => string?_eq_none cs quoteless.1 quoteless.2
      have noPlaceholder : ∀ rest, c :: cs ++ sep :: d :: more ≠ '$' :: '\x7b' :: rest := by
        intro inner same
        rcases prefix_or_blank_mem ['$', '\x7b'] same with ⟨others, whole⟩ | blank
        · exact unopened others whole
        · have unmarked : sep ∉ ['$', '\x7b'] := of_space space (by decide)
          exact unmarked blank
      have every : scanOne? (c :: cs ++ sep :: d :: more) = (scanOne? (c :: cs)).onto (sep :: d :: more) := by
        simp only [scanOne?, placeholder?_other noPlaceholder, placeholder?_other unopened, operator?_before space,
          iri?_before space, var?_before space, blank?_before space, anon?_before space shut, langTag?_before space,
          emptyLabel?_before space, word?_before space, double?_before (endsNumber_space space),
          decimal?_before (endsNumber_space space), integer?_before (endsNumber_space space), punct?_before space,
          noString, Found.onto_or, Found.onto_none]
        rw [List.cons_append, noString]
      rw [every, found]
      rfl

end Readers

end TemplateQuery.Token
