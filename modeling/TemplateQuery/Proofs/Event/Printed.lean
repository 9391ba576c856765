import TemplateQuery.Event.Printer
import TemplateQuery.Proofs.Text.Infix
import TemplateQuery.Proofs.Text.Numerals

/-! Where a word can occur in printed events. What the printer sets between the texts of an event are blanks, colons,
quotes and brackets, and what it escapes starts with a backslash, so that a word without any of these is in a line only
when it is in one of the texts. A language tag is the exception: it follows an `@` that the printer writes. -/

set_option autoImplicit false

namespace TemplateQuery

/-! ## The texts of an event -/

def Term.texts : Term → List String
  | .var name => [name]
  | .iri i => [i]
  | .curie label localPart i => [label, localPart, i]
  | .reference relative resolved => [relative, resolved]
  | .blank label => [label]
  | .literal lexical .simple => [lexical]
  | .literal lexical (.lang tag) => [lexical, tag]
  | .literal lexical (.typed datatype) => [lexical, datatype]

namespace Event

def texts : Event → List String
  | .base iri => [iri]
  | .declare label iri => [label, iri]
  | .startSubject node | .endSubject node => node.term.texts
  | .startGraph term | .endGraph term => term.texts
  | .triple t => t.subject.term.texts ++ t.predicate.term.texts ++ t.object.term.texts
  | .pattern p => p.subject.texts ++ p.predicate.texts ++ p.object.texts
  | .comment text => [text]
  | .orderBy names => names
  | .startDocument | .endDocument | .select | .ask | .whereBlock _ | .optional _ | .group _ | .union => []

def Line.text : Line → List Char
  | .nothing => []
  | .plain text | .opening text => text
  | .closing => ['\x7d']

end Event

/-! ## The word that announces an origin -/

namespace Origins

open Text Term

def word : List Char := "@origin".toList

theorem head?_word : word.head? = some '@' := by decide

def Bare (text : List Char) : Prop := ¬ word <:+: text

/-- Texts in which the word does not stand behind a blank. -/
def Clear (text : List Char) : Prop := ¬ ' ' :: word <:+: text

variable {text front back : List Char} {c : Char}

theorem Bare.clear_cons (bare : Bare text) (c : Char) : Clear (c :: text) := by
  intro found
  rcases List.infix_cons_iff.mp found with first | later
  · exact bare (List.cons_prefix_cons.mp first).2.isInfix
  · exact bare ((List.suffix_cons ' ' word).isInfix.trans later)

theorem Bare.append (other : c ∉ word) (first : Bare front) (last : Bare back) : Bare (front ++ c :: back) :=
  fun found => (infix_append_cons other found).elim first last

theorem Bare.cons (other : c ∉ word) (bare : Bare text) : Bare (c :: text) := by
  intro found
  rcases List.infix_cons_iff.mp found with first | later
  · obtain ⟨same, -⟩ := List.cons_prefix_cons.mp first
    exact other (same ▸ List.mem_cons_self)
  · exact bare later

theorem Clear.append (other : c ∉ ' ' :: word) (first : Clear front) (last : Clear back) : Clear (front ++ c :: back) :=
  fun found => (infix_append_cons other found).elim first last

theorem Clear.append_blank (first : Clear front) (last : Clear (' ' :: back)) : Clear (front ++ ' ' :: back) :=
  fun found => (infix_append_blank (by decide) found).elim first last

theorem bare_of_absent (absent : '@' ∉ text) : Bare text := fun found => absent (found.subset (by decide))

theorem bare_nil : Bare [] := bare_of_absent (by simp)

theorem bare_writtenIri (bare : Bare text) : Bare (writtenIri text) := by
  have escapes : Escapes writtenIriChar word := by
    intro c
    have absent : ∀ width n, '@' ∉ hexTextUpper width n :=
      fun width n member => absurd (isHex_of_mem_hexTextUpper member) (by decide)
    unfold writtenIriChar
    split
    · exact .inl rfl
    · split <;> exact .inr ⟨_, _, rfl, by decide, by simpa [head?_word] using absent _ _⟩
  have body : Bare (text.flatMap writtenIriChar) := fun found => bare (infix_of_escaped escapes found)
  exact .cons (by decide) (.append (by decide) body bare_nil)

theorem bare_opened (bare : Bare text) : Bare ('"' :: text.flatMap quotedChar) := by
  have escaped : ∀ c d : Char, d ≠ '@' → ['\\', d] = [c] ∨ ∃ first rest, ['\\', d] = first :: rest ∧ first ∉ word ∧
      ∀ a ∈ word.head?, a ∉ rest :=
    fun c d other => .inr ⟨_, _, rfl, by decide, by simpa [head?_word] using other.symm⟩
  have escapes : Escapes quotedChar word := by
    intro c
    unfold quotedChar
    split
    · exact escaped _ _ (by decide)
    · exact escaped _ _ (by decide)
    · exact escaped _ _ (by decide)
    · exact escaped _ _ (by decide)
    · exact escaped _ _ (by decide)
    · exact .inl rfl
  exact .cons (by decide) fun found => bare (infix_of_escaped escapes found)

theorem bare_quoted (bare : Bare text) : Bare (quoted text) := .append (by decide) (bare_opened bare) bare_nil

theorem clear_tagged (bare : Bare text) {tag : List Char} (tagged : Bare tag) :
    Clear (' ' :: (quoted text ++ '@' :: tag)) := by
  -- A language tag follows an `@`, and the quote before that is no blank.
  have split : ' ' :: (quoted text ++ '@' :: tag) = (' ' :: '"' :: text.flatMap quotedChar) ++ '"' :: '@' :: tag := by
    simp [quoted]
  rw [split]
  exact .append (by decide) ((bare_opened bare).clear_cons ' ') (tagged.clear_cons '@')

theorem clear_patternChars {t : Term} (bare : ∀ text ∈ t.texts, Bare text.toList) : Clear (' ' :: t.patternChars) := by
  cases t with
  | var name => exact Bare.clear_cons (.cons (by decide) (bare name (by simp [texts]))) ' '
  | iri i => exact (bare_writtenIri (bare i (by simp [texts]))).clear_cons ' '
  | curie label localPart i =>
    exact Bare.clear_cons (.append (by decide) (bare label (by simp [texts])) (bare localPart (by simp [texts]))) ' '
  | reference relative resolved => exact (bare_writtenIri (bare relative (by simp [texts]))).clear_cons ' '
  | blank label =>
    exact Bare.clear_cons (.cons (by decide) (.cons (by decide) (bare label (by simp [texts])))) ' '
  | literal lexical tag =>
    cases tag with
    | simple => exact (bare_quoted (bare lexical (by simp [texts]))).clear_cons ' '
    | lang tag => exact clear_tagged (bare lexical (by simp [texts])) (bare tag (by simp [texts]))
    | typed datatype =>
      simp only [patternChars, writtenChars, writtenLiteral]
      split
      · exact (bare_of_absent (Number.not_mem_intText (by decide) _)).clear_cons ' '
      · refine Bare.clear_cons (.append (by decide) (bare_quoted (bare lexical (by simp [texts]))) ?_) ' '
        exact .cons (by decide) (bare_writtenIri (bare datatype (by simp [texts])))

theorem Clear.nil : Clear [] := by simp [Clear]

theorem Clear.of_cons (clear : Clear (c :: text)) : Clear text := fun found => clear (List.infix_cons found)

theorem clear_of_absent (absent : '@' ∉ text) : Clear text := ((bare_of_absent absent).clear_cons ' ').of_cons

theorem clear_closing : Clear ['\x7d'] := clear_of_absent (by decide)

theorem Clear.keyword (name : String) (absent : '@' ∉ name.toList) (last : Clear (' ' :: back)) :
    Clear (name.toList ++ ' ' :: back) :=
  (clear_of_absent absent).append_blank last

theorem clear_statementLine {subject predicate object : Term}
    (bare : ∀ text ∈ subject.texts ++ predicate.texts ++ object.texts, Bare text.toList) :
    Clear (Event.statementLine subject predicate object).text := by
  simp only [List.mem_append] at bare
  have first := clear_patternChars fun text member => bare text (.inl (.inl member))
  have second := clear_patternChars fun text member => bare text (.inl (.inr member))
  have third := clear_patternChars fun text member => bare text (.inr member)
  exact ((first.of_cons.append_blank second).append_blank third).append_blank (clear_of_absent (by decide))

theorem clear_listed {names : List String} (bare : ∀ name ∈ names, Bare name.toList) (clear : Clear front) :
    Clear (front ++ names.flatMap fun name => ' ' :: '?' :: name.toList) := by
  induction names generalizing front with
  | nil => simpa using clear
  | cons name names ih =>
    have here : Clear (' ' :: '?' :: name.toList) :=
      (Bare.cons (by decide) (bare name List.mem_cons_self)).clear_cons ' '
    rw [List.flatMap_cons, ← List.append_assoc]
    exact ih (fun d member => bare d (List.mem_cons_of_mem name member)) (clear.append_blank here)

/-- The line of an event has the word behind a blank only if one of its texts has the word. -/
theorem clear_line {e : Event} (bare : ∀ text ∈ e.texts, Bare text.toList) : Clear e.line.text := by
  cases e with
  | startDocument | endDocument | startSubject _ | endSubject _ => exact .nil
  | select | ask | union => exact clear_of_absent (by decide)
  | endGraph _ => exact clear_closing
  | whereBlock half | optional half | group half => cases half <;> exact clear_of_absent (by decide)
  | base iri =>
    exact .keyword "BASE" (by decide) ((bare_writtenIri (bare iri (by simp [Event.texts]))).clear_cons ' ')
  | declare label iri =>
    have labelled := (bare label (by simp [Event.texts])).clear_cons ' '
    have located := (bare_writtenIri (bare iri (by simp [Event.texts]))).clear_cons ' '
    have line := Clear.keyword "PREFIX" (by decide) (labelled.append (show ':' ∉ ' ' :: word by decide) located)
    simpa [Event.line, Event.Line.text] using line
  | startGraph term =>
    have opening : Clear [' ', '\x7b'] := clear_of_absent (by decide)
    have line := Clear.keyword "GRAPH" (by decide) ((clear_patternChars bare).append_blank opening)
    simpa [Event.line, Event.Line.text] using line
  | pattern p => exact clear_statementLine bare
  | triple t => exact clear_statementLine bare
  | comment text => exact (bare text (by simp [Event.texts])).clear_cons '#'
  | orderBy names => exact clear_listed bare (clear_of_absent (by decide))

end Origins

end TemplateQuery
