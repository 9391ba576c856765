import TemplateQuery.Proofs.Iri.Absolute
import TemplateQuery.Proofs.Text.Numerals
import TemplateQuery.Proofs.Token.Lexing
import TemplateQuery.Term.Written

/-! Written terms lex to the tokens they stand for. Escapes are undone by the readers of IRIs and strings, and what
follows a term is not drawn into it. -/

set_option autoImplicit false

namespace TemplateQuery.Term

open Token Text

def iris : Term → List String
  | .iri i | .curie _ _ i | .reference _ i => [i]
  | .literal _ (.typed datatype) => [datatype]
  | _ => []

/-- No variable, and with a label or a language tag that tokens can have. -/
def Spelt : Term → Prop
  | .var _ => False
  | .blank label => isBlankLabel label.toList = true
  | .literal _ (.lang tag) => tag.toList ≠ [] ∧ ∀ c ∈ tag.toList, isTagChar c = true
  | _ => True

def Readable (t : Term) : Prop := t.Spelt ∧ ∀ i ∈ t.iris, Iri.isAbsolute i = true

theorem hexChar?_hexTextUpper (width : Nat) {c : Char} (fits : c.toNat < 16 ^ width) :
    hexChar? (hexTextUpper width c.toNat) = some c := by
  rw [hexChar?, hexNumber?_hexTextUpper width c.toNat fits, Option.bind_some, charOf?_toNat]

theorem isIriChar_of_isAlpha {c : Char} (letter : c.isAlpha = true) : isIriChar c = true := by
  have bounds := toNat_of_isAlpha letter
  have away : ∀ d : Char, d.isAlpha = false → c ≠ d := by
    rintro d other rfl
    rw [other] at letter
    cases letter
  simp [isIriChar, away '<', away '>', away '"', away '\x7b', away '\x7d', away '|', away '^', away '\\']
  omega

theorem iriBody?_writtenIriChar (c : Char) (cs : List Char) :
    iriBody? (writtenIriChar c ++ cs) = prepend (some c) (iriBody? cs) := by
  unfold writtenIriChar
  split
  · next inside =>
    have slash : c ≠ '\\' := by rintro rfl; cases inside
    have close : c ≠ '>' := by rintro rfl; cases inside
    rw [List.singleton_append, iriBody?_cons slash, if_neg close, if_pos inside]
  · split
    · next short =>
      have decoded := hexChar?_hexTextUpper 4 (c := c) (by omega)
      rw [← decoded]
      rfl
    · have small : c.toNat < 16 ^ 8 := c.val.toNat_lt
      have decoded := hexChar?_hexTextUpper 8 (c := c) small
      rw [← decoded]
      rfl

theorem iriBody?_written (iri tail : List Char) :
    iriBody? (iri.flatMap writtenIriChar ++ '>' :: tail) = some (iri, tail) := by
  induction iri with
  | nil => rfl
  | cons c iri ih =>
    rw [List.flatMap_cons, List.append_assoc, iriBody?_writtenIriChar, ih]
    rfl

theorem lexes_writtenIri {iri : String} {tail : List Char} {kinds : List Kind} (absolute : Iri.isAbsolute iri = true)
    (later : Lexes tail kinds) : Lexes (writtenIri iri.toList ++ tail) (.iri iri :: kinds) := by
  obtain ⟨c, cs, same, letter⟩ := Iri.isAlpha_head_of_isAbsolute absolute
  have inside := isIriChar_of_isAlpha letter
  have body := iriBody?_written iri.toList tail
  have noEq : (iri.toList.flatMap writtenIriChar ++ '>' :: tail).head? ≠ some '=' := by
    rw [same, List.flatMap_cons, writtenIriChar, if_pos inside]
    simp only [List.cons_append, List.head?_cons, ne_eq, Option.some.injEq]
    rintro rfl
    cases letter
  have scanned := scanOne?_iri _ body noEq
  rw [String.ofList_toList] at scanned
  have shape : writtenIri iri.toList ++ tail = '<' :: (iri.toList.flatMap writtenIriChar ++ '>' :: tail) := by
    simp [writtenIri]
  rw [shape]
  exact .cons (by decide) scanned later

theorem shortBody?_quotedChar (c : Char) (cs : List Char) :
    shortBody? '"' (quotedChar c ++ cs) = prepend (some c) (shortBody? '"' cs) := by
  unfold quotedChar
  split
  · rfl
  · rfl
  · rfl
  · rfl
  · rfl
  · next slash quote newline ret _ =>
    rw [List.cons_append, List.nil_append, shortBody?.eq_def]
    split <;> simp_all

theorem shortBody?_quoted (text tail : List Char) :
    shortBody? '"' (text.flatMap quotedChar ++ '"' :: tail) = some (text, tail) := by
  induction text with
  | nil => rfl
  | cons c text ih =>
    rw [List.flatMap_cons, List.append_assoc, shortBody?_quotedChar, ih]
    rfl

theorem quotedChar_head (c : Char) (cs : List Char) : (quotedChar c ++ cs).head? ≠ some '"' := by
  unfold quotedChar
  split <;> simp_all

theorem take_quoted (text : List Char) {tail : List Char} (noQuote : tail.head? ≠ some '"') :
    (text.flatMap quotedChar ++ '"' :: tail).take 2 ≠ ['"', '"'] := by
  cases text with
  | nil =>
    intro same
    cases tail with
    | nil => cases same
    | cons c tail => simp_all
  | cons c text =>
    intro same
    rw [List.flatMap_cons, List.append_assoc] at same
    apply quotedChar_head c (text.flatMap quotedChar ++ '"' :: tail)
    cases front : quotedChar c ++ (text.flatMap quotedChar ++ '"' :: tail) with
    | nil => rw [front] at same; cases same
    | cons d rest =>
      rw [front] at same
      simp only [List.take_succ_cons, List.cons.injEq] at same
      rw [same.1]
      rfl

theorem lexes_quoted (text : List Char) {tail : List Char} {kinds : List Kind} (noQuote : tail.head? ≠ some '"')
    (later : Lexes tail kinds) : Lexes (quoted text ++ tail) (.string (String.ofList text) :: kinds) := by
  have scanned := scanOne?_string _ (shortBody?_quoted text tail) (take_quoted text noQuote)
  have shape : quoted text ++ tail = '"' :: (text.flatMap quotedChar ++ '"' :: tail) := by simp [quoted]
  rw [shape]
  exact .cons (by decide) scanned later

def intKinds (n : Int) : List Kind :=
  let digits := Kind.integer (String.ofList (Number.natText n.natAbs))
  if n < 0 then [.punct .minus, digits] else [digits]

def integer? (lexical datatype : String) : Option Int :=
  if datatype = Vocabulary.xsdInteger then Number.readInteger? lexical.toList else none

theorem writtenLiteral_typed (lexical datatype : String) :
    writtenLiteral lexical.toList (.typed datatype) =
      match integer? lexical datatype with
      | some n => Number.intText n
      | none => quoted lexical.toList ++ '^' :: '^' :: writtenIri datatype.toList := rfl

def writtenKinds : Term → List Kind
  | .var name => [.var name]
  | .iri i | .curie _ _ i | .reference _ i => [.iri i]
  | .blank label => [.blank label]
  | .literal lexical .simple => [.string lexical]
  | .literal lexical (.lang tag) => [.string lexical, .langTag tag]
  | .literal lexical (.typed datatype) =>
    match integer? lexical datatype with
    | some n => intKinds n
    | none => [.string lexical, .punct .doubleCaret, .iri datatype]

theorem lexes_natText {n : Nat} {tail : List Char} {kinds : List Kind} (stop : Stop tail) (later : Lexes tail kinds) :
    Lexes (Number.natText n ++ tail) (.integer (String.ofList (Number.natText n)) :: kinds) := by
  have scanned := scanOne?_integer (Number.natText_ne_nil n) (fun c member => Number.isDigit_of_mem_natText member) stop
  obtain ⟨c, cs, same, digit⟩ := Number.exists_cons_natText n
  rw [same] at scanned ⊢
  exact .cons (not_mem_of_any digit (by decide)) scanned later

theorem lexes_intText {n : Int} {tail : List Char} {kinds : List Kind} (stop : Stop tail) (later : Lexes tail kinds) :
    Lexes (Number.intText n ++ tail) (intKinds n ++ kinds) := by
  unfold Number.intText intKinds
  split
  · exact .cons (by decide) (scanOne?_mark _ rfl (by decide)) (lexes_natText stop later)
  · exact lexes_natText stop later

/-- A written term is read as its own tokens, whatever follows after a blank. -/
theorem lexes_written {t : Term} {tail : List Char} {kinds : List Kind} (readable : t.Readable) (stop : Stop tail)
    (later : Lexes tail kinds) : Lexes (t.writtenChars ++ tail) (t.writtenKinds ++ kinds) := by
  obtain ⟨spelt, absolute⟩ := readable
  -- What follows ends a name or a number, and it opens no quote behind a quoted text.
  have noQuote : tail.head? ≠ some '"' := fun quote => absurd (stop '"' quote) (by decide)
  cases t with
  | var name => cases spelt
  | iri i => exact lexes_writtenIri (absolute i (by simp [iris])) later
  | curie label localPart i => exact lexes_writtenIri (absolute i (by simp [iris])) later
  | reference relative i => exact lexes_writtenIri (absolute i (by simp [iris])) later
  | blank label =>
    have scanned := scanOne?_blank spelt stop
    rw [String.ofList_toList] at scanned
    exact .cons (by decide) scanned later
  | literal lexical tag =>
    cases tag with
    | simple =>
      have text := lexes_quoted lexical.toList noQuote later
      rwa [String.ofList_toList] at text
    | lang tag =>
      have scanned := scanOne?_langTag spelt.1 spelt.2 stop
      rw [String.ofList_toList] at scanned
      have tagged : Lexes ('@' :: tag.toList ++ tail) (.langTag tag :: kinds) := .cons (by decide) scanned later
      have text := lexes_quoted lexical.toList (by simp) tagged
      rw [String.ofList_toList] at text
      simpa [writtenChars, writtenLiteral, writtenKinds] using text
    | typed datatype =>
      simp only [writtenChars, writtenLiteral_typed, writtenKinds]
      cases number : integer? lexical datatype with
      | some n => exact lexes_intText stop later
      | none =>
        have typed : Lexes ('^' :: '^' :: writtenIri datatype.toList ++ tail)
            (.punct .doubleCaret :: .iri datatype :: kinds) :=
          .cons (by decide) rfl (lexes_writtenIri (absolute datatype (by simp [iris])) later)
        have text := lexes_quoted lexical.toList (by simp) typed
        rw [String.ofList_toList] at text
        simpa using text

end TemplateQuery.Term
