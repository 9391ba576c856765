import TemplateQuery.Token.Tokenize

/-! What a text lexes to, without the spans of its tokens. A token at the front of a text is read whatever follows,
as long as what follows cannot continue it. -/

set_option autoImplicit false

namespace TemplateQuery.Token

open Text

/-- Between tokens there is only what is skipped, and the last token marks the end. -/
inductive Lexes : List Char → List Kind → Prop
  | done {cs : List Char} (skipped : skip cs = []) : Lexes cs [.eof]
  | token {cs rest after : List Char} {c : Char} {kind : Kind} {kinds : List Kind} (skipped : skip cs = c :: rest)
      (scanned : scanOne? (c :: rest) = some (kind, after)) (later : Lexes after kinds) : Lexes cs (kind :: kinds)

theorem Lexes.scanFrom {cs : List Char} {kinds : List Kind} (lexes : Lexes cs kinds) (offset : Nat) :
    ∃ tokens, scanFrom offset cs = .ok tokens ∧ tokens.map Token.kind = kinds := by
  induction lexes generalizing offset with
  | done skipped =>
    rw [Token.scanFrom]
    split
    · exact ⟨_, rfl, rfl⟩
    · next other => rw [skipped] at other; cases other
  | @token cs rest after c kind kinds skipped scanned later ih =>
    rw [Token.scanFrom]
    split
    · next other => rw [skipped] at other; cases other
    · next same =>
      rw [skipped] at same
      cases same
      split
      · next other => rw [scanned] at other; cases other
      · next found =>
        rw [scanned] at found
        cases found
        obtain ⟨tokens, ran, same⟩ :=
          ih (offset + (byteSize cs - byteSize (skip cs)) + (byteSize (c :: rest) - byteSize after))
        exact ⟨_, by simp only [ran]; rfl, by simp [same]⟩

theorem lexes_of_scanFrom {cs : List Char} {offset : Nat} {tokens : List Token}
    (scanned : scanFrom offset cs = .ok tokens) : Lexes cs (tokens.map Token.kind) := by
  fun_induction scanFrom offset cs generalizing tokens with
  | case1 offset cs => cases scanned; exact .done ‹skip cs = []›
  | case2 => cases scanned
  | case3 offset cs start c rest skipped kind after found stop =>
    rename_i ih
    cases later : scanFrom stop after with
    | error fault => rw [later] at scanned; cases scanned
    | ok tokens => rw [later] at scanned; cases scanned; exact .token skipped found (ih later)

theorem exists_tokenize_iff {text : String} {kinds : List Kind} :
    (∃ tokens, tokenize text = .ok tokens ∧ tokens.map Token.kind = kinds) ↔ Lexes text.toList kinds := by
  constructor
  · rintro ⟨tokens, ran, rfl⟩
    unfold tokenize at ran
    split at ran
    · next found => cases ran; exact lexes_of_scanFrom found
    · cases ran
  · intro lexes
    obtain ⟨tokens, ran, same⟩ := lexes.scanFrom 0
    exact ⟨tokens, by simp [tokenize, ran], same⟩

theorem Lexes.skip_eq {cs ds : List Char} {kinds : List Kind} (lexes : Lexes ds kinds) (same : skip cs = skip ds) :
    Lexes cs kinds := by
  cases lexes with
  | done skipped => exact .done (same.trans skipped)
  | token skipped scanned later => exact .token (same.trans skipped) scanned later

theorem Lexes.space {c : Char} {cs : List Char} {kinds : List Kind} (space : isSpace c = true)
    (lexes : Lexes cs kinds) : Lexes (c :: cs) kinds :=
  lexes.skip_eq (by simp [skip, skipFrom, space])

def gaps : List Char := [' ', '\t', '\r', '\n', '#']

theorem skip_of_starts {c : Char} (starts : c ∉ gaps) (cs : List Char) : skip (c :: cs) = c :: cs := by
  have unspaced : isSpace c = false ∧ c ≠ '#' := by simpa [gaps, isSpace, and_assoc] using starts
  simp [skip, skipFrom, unspaced]

theorem Lexes.cons {c : Char} {cs after : List Char} {kind : Kind} {kinds : List Kind} (starts : c ∉ gaps)
    (scanned : scanOne? (c :: cs) = some (kind, after)) (later : Lexes after kinds) :
    Lexes (c :: cs) (kind :: kinds) :=
  .token (skip_of_starts starts cs) scanned later

/-- Where a name, a number or a label cannot go on: the end of the text, or a blank. -/
def Stop (cs : List Char) : Prop := ∀ c ∈ cs.head?, c = ' '

theorem takeWhile_stop {p : Char → Bool} {front tail : List Char} (inside : ∀ c ∈ front, p c = true)
    (stop : Stop tail) (blank : p ' ' = false) : (front ++ tail).takeWhile p = front := by
  rw [List.takeWhile_append_of_pos inside]
  cases tail with
  | nil => simp
  | cons c tail =>
    have : c = ' ' := stop c rfl
    simp [this, blank]

theorem dropWhile_stop {p : Char → Bool} {front tail : List Char} (inside : ∀ c ∈ front, p c = true)
    (stop : Stop tail) (blank : p ' ' = false) : (front ++ tail).dropWhile p = tail := by
  rw [List.dropWhile_append_of_pos inside]
  cases tail with
  | nil => simp
  | cons c tail =>
    have : c = ' ' := stop c rfl
    simp [this, blank]

section Scanning

variable {c : Char} (cs : List Char)

theorem operator?_eq_none (plain : c ∉ ['^', '|', '&', '!', '<', '>']) : operator? (c :: cs) = none := by
  unfold operator?
  split <;> simp_all

theorem iri?_eq_none (other : c ≠ '<') : iri? (c :: cs) = none := by
  unfold iri?
  split <;> simp_all

theorem placeholder?_eq_none (other : c ≠ '$') : placeholder? (c :: cs) = none := by
  unfold placeholder?
  split <;> simp_all

theorem var?_eq_none (question : c ≠ '?') (dollar : c ≠ '$') : var? (c :: cs) = none := by
  unfold var?
  split <;> simp_all

theorem blank?_eq_none (other : c ≠ '_') : blank? (c :: cs) = none := by
  unfold blank?
  split <;> simp_all

theorem anon?_eq_none (other : c ≠ '[') : anon? (c :: cs) = none := by
  unfold anon?
  split <;> simp_all

theorem langTag?_eq_none (other : c ≠ '@') : langTag? (c :: cs) = none := by
  unfold langTag?
  split <;> simp_all

theorem emptyLabel?_eq_none (other : c ≠ ':') : emptyLabel? (c :: cs) = none := by
  unfold emptyLabel?
  split <;> simp_all

theorem word?_eq_none (other : isLetter c = false) : word? (c :: cs) = none := by
  simp [word?, other]

theorem string?_eq_none (double : c ≠ '"') (single : c ≠ '\'') : string? (c :: cs) = none := by
  simp [string?, double, single]

def special : List Char := ['^', '|', '&', '!', '<', '>', '$', '?', '_', '[', '@', ':']

theorem scanOne?_unmarked (plain : c ∉ special) :
    scanOne? (c :: cs) = (word? (c :: cs)).or ((string? (c :: cs)).or ((double? (c :: cs)).or
      ((decimal? (c :: cs)).or ((integer? (c :: cs)).or (punct? (c :: cs)))))) := by
  simp only [special, List.mem_cons, List.not_mem_nil, not_or, not_false_eq_true, and_true] at plain
  obtain ⟨h1, h2, h3, h4, angle, h6, dollar, question, low, bracket, atSign, colon⟩ := plain
  rw [scanOne?, operator?_eq_none cs (by simp [*]), iri?_eq_none cs angle, placeholder?_eq_none cs dollar,
    var?_eq_none cs question dollar, blank?_eq_none cs low, anon?_eq_none cs bracket, langTag?_eq_none cs atSign,
    emptyLabel?_eq_none cs colon]
  simp only [Option.none_or]

theorem scanOne?_plain (plain : c ∉ '"' :: '\'' :: special) (letter : isLetter c = false) :
    scanOne? (c :: cs) =
      (double? (c :: cs)).or ((decimal? (c :: cs)).or ((integer? (c :: cs)).or (punct? (c :: cs)))) := by
  simp only [List.mem_cons, not_or] at plain
  obtain ⟨double, single, plain⟩ := plain
  rw [scanOne?_unmarked cs plain, word?_eq_none cs letter, string?_eq_none cs double single]
  simp only [Option.none_or]

theorem toNat_of_isDigit {c : Char} (digit : c.isDigit = true) : 48 ≤ c.toNat ∧ c.toNat ≤ 57 := by
  simpa [Char.isDigit, UInt32.le_iff_toNat_le] using digit

theorem toNat_of_isAlpha {c : Char} (letter : c.isAlpha = true) :
    (65 ≤ c.toNat ∧ c.toNat ≤ 90) ∨ (97 ≤ c.toNat ∧ c.toNat ≤ 122) := by
  have ranges : (decide (c.val ≥ 'A'.val ∧ c.val ≤ 'Z'.val) || (decide (c.val ≥ 'a'.val) && decide (c.val ≤ 'z'.val))) =
      true := letter
  simpa [UInt32.le_iff_toNat_le] using ranges

theorem isLetter_of_isDigit (digit : c.isDigit = true) : isLetter c = false := by
  have bounds := toNat_of_isDigit digit
  simp only [isLetter, between]
  grind

theorem not_mem_of_any {p : Char → Bool} {others : List Char} (holds : p c = true) (apart : others.any p = false) :
    c ∉ others :=
  fun member => List.any_eq_false.mp apart c member holds

theorem pointed?_eq_none (trailing : Bool) {cs : List Char} (pointless : (digits cs).2.head? ≠ some '.') :
    pointed? trailing cs = none := by
  unfold pointed?
  split
  · next after same => rw [same] at pointless; exact absurd rfl pointless
  · rfl

theorem scanOne?_mark {mark : Punct} (found : punctOf? c = some mark)
    (plain : c ∉ '"' :: '\'' :: special ∧ isLetter c = false ∧ c.isDigit = false ∧ c ≠ '.') :
    scanOne? (c :: cs) = some (.punct mark, cs) := by
  obtain ⟨ordinary, letter, digit, dot⟩ := plain
  have none : digits (c :: cs) = ([], c :: cs) := by simp [digits, digit]
  have pointless : ∀ trailing, pointed? trailing (c :: cs) = Option.none := by
    intro trailing
    apply pointed?_eq_none
    simpa [none] using dot
  rw [scanOne?_plain cs ordinary letter]
  simp [double?, decimal?, integer?, punct?, pointless, none, found]

theorem scanOne?_integer {front tail : List Char} (nonempty : front ≠ []) (inside : ∀ c ∈ front, c.isDigit = true)
    (stop : Stop tail) : scanOne? (front ++ tail) = some (.integer (String.ofList front), tail) := by
  have all : digits (front ++ tail) = (front, tail) :=
    Prod.ext (takeWhile_stop inside stop (by decide)) (dropWhile_stop inside stop (by decide))
  have pointless : ∀ trailing, pointed? trailing (front ++ tail) = none := by
    intro trailing
    apply pointed?_eq_none
    rw [all]
    intro dot
    exact absurd (stop '.' dot) (by decide)
  have unmarked : tail.head?.any isExponentMark = false := by
    cases tail with
    | nil => rfl
    | cons c tail => rw [stop c rfl]; rfl
  have powerless : exponent? tail = none := by
    cases tail with
    | nil => rfl
    | cons c tail => rw [stop c rfl]; rfl
  cases front with
  | nil => exact absurd rfl nonempty
  | cons c front =>
    have digit := inside c List.mem_cons_self
    rw [List.cons_append, scanOne?_plain _ (not_mem_of_any digit (by decide)) (isLetter_of_isDigit digit)]
    rw [List.cons_append] at all pointless
    simp [double?, decimal?, integer?, pointless, all, powerless, unmarked]

theorem iriBody?_cons {c : Char} (plain : c ≠ '\\') (cs : List Char) :
    iriBody? (c :: cs) =
      if c = '>' then some ([], cs) else if isIriChar c then prepend (some c) (iriBody? cs) else none := by
  rw [iriBody?.eq_def]
  split
  · next same => cases same
  · next same => exact absurd (List.cons.inj same).1 plain
  · next same => exact absurd (List.cons.inj same).1 plain
  · next same => cases same; rfl

theorem scanOne?_iri {iri after : List Char} (body : iriBody? cs = some (iri, after)) (noEq : cs.head? ≠ some '=') :
    scanOne? ('<' :: cs) = some (.iri (String.ofList iri), after) := by
  -- Operators are tried before IRIs, and `<=` is the one that starts like an IRI.
  have noOperator : operator? ('<' :: cs) = none := by
    unfold operator?
    split <;> simp_all
  simp [scanOne?, noOperator, iri?, body]

theorem scanOne?_string {text after : List Char} (body : shortBody? '"' cs = some (text, after))
    (short : cs.take 2 ≠ ['"', '"']) : scanOne? ('"' :: cs) = some (.string (String.ofList text), after) := by
  rw [scanOne?_unmarked cs (by decide), word?_eq_none cs (by decide)]
  simp [string?, short, body]

def isBlankLabel : List Char → Bool
  | [] => false
  | c :: cs =>
    (isLetterOrUnderscore c || c.isDigit) && cs.all (fun d => isNameChar d || d == '.') && cs.getLast? != some '.'

theorem scanOne?_blank {label tail : List Char} (valid : isBlankLabel label = true) (stop : Stop tail) :
    scanOne? ('_' :: ':' :: label ++ tail) = some (.blank (String.ofList label), tail) := by
  cases label with
  | nil => cases valid
  | cons c label =>
    simp only [isBlankLabel, Bool.and_eq_true, List.all_eq_true] at valid
    obtain ⟨⟨first, inside⟩, last⟩ := valid
    have taken := takeWhile_stop inside stop (by decide)
    have dropped := dropWhile_stop inside stop (by decide)
    simp only [List.cons_append]
    rw [scanOne?, operator?_eq_none _ (by decide), iri?_eq_none _ (by decide), placeholder?_eq_none _ (by decide),
      var?_eq_none _ (by decide) (by decide)]
    simp only [blank?, taken, dropped, first, last, Bool.and_self, ↓reduceIte, Option.none_or, Option.some_or]

theorem scanOne?_langTag {tag tail : List Char} (nonempty : tag ≠ []) (inside : ∀ c ∈ tag, isTagChar c = true)
    (stop : Stop tail) : scanOne? ('@' :: tag ++ tail) = some (.langTag (String.ofList tag), tail) := by
  have taken := takeWhile_stop inside stop (by decide)
  have dropped := dropWhile_stop inside stop (by decide)
  rw [List.cons_append, scanOne?, operator?_eq_none _ (by decide), iri?_eq_none _ (by decide),
    placeholder?_eq_none _ (by decide), var?_eq_none _ (by decide) (by decide), blank?_eq_none _ (by decide),
    anon?_eq_none _ (by decide)]
  cases tag with
  | nil => exact absurd rfl nonempty
  | cons c tag => simp only [langTag?, taken, dropped, Option.none_or, Option.some_or]

theorem scanOne?_var {mark : Char} {name tail : List Char} (marked : mark = '$' ∨ mark = '?')
    (valid : isVarName name = true) (stop : Stop tail) :
    scanOne? (mark :: name ++ tail) = some (.var (String.ofList name), tail) := by
  cases name with
  | nil => cases valid
  | cons c name =>
    simp only [isVarName, Bool.and_eq_true, List.all_eq_true] at valid
    obtain ⟨first, inside⟩ := valid
    have taken := takeWhile_stop inside stop (by decide)
    have dropped := dropWhile_stop inside stop (by decide)
    have noPlaceholder : placeholder? (mark :: c :: (name ++ tail)) = none := by
      unfold placeholder?
      split
      · next same => cases same; exact absurd first (by decide)
      · rfl
    have plain : mark ∉ ['^', '|', '&', '!', '<', '>'] ∧ mark ≠ '<' := by rcases marked with rfl | rfl <;> decide
    simp only [List.cons_append]
    rw [scanOne?, operator?_eq_none _ plain.1, iri?_eq_none _ plain.2, noPlaceholder]
    simp [var?, taken, dropped, first, marked.symm]

theorem dotted_stop {front tail : List Char} (inside : ∀ c ∈ front, isNameChar c = true) (stop : Stop tail) :
    dotted (front ++ tail) = (front, tail) := by
  induction front with
  | nil =>
    cases tail with
    | nil => rfl
    | cons c tail => rw [stop c rfl]; rfl
  | cons c front ih =>
    have first := inside c List.mem_cons_self
    simp [dotted, first, ih fun d member => inside d (List.mem_cons_of_mem c member)]

theorem lexes_keyword {word tail : List Char} {k : Keyword} {kinds : List Kind} (nonempty : word ≠ [])
    (spelt : Keyword.ofWord? word = some k) (letters : word.all isLetter = true) (stop : Stop tail)
    (later : Lexes tail kinds) : Lexes (word ++ tail) (.keyword k :: kinds) := by
  have inside := List.all_eq_true.mp letters
  have names : ∀ c ∈ word, isNameChar c = true := by
    intro c member
    simp [isNameChar, isLetterOrUnderscore, inside c member]
  have run := dotted_stop names stop
  cases word with
  | nil => exact absurd rfl nonempty
  | cons c word =>
    have letter := inside c List.mem_cons_self
    have read : word? (c :: (word ++ tail)) = some (.keyword k, tail) := by
      rw [List.cons_append] at run
      simp only [word?, letter, ↓reduceIte, run]
      split
      · next same =>
        cases same
        exact absurd (stop ':' rfl) (by decide)
      · next same =>
        cases same
        rw [spelt]
    have scanned : scanOne? (c :: (word ++ tail)) = some (.keyword k, tail) := by
      rw [scanOne?_unmarked _ (not_mem_of_any letter (by decide)), read, Option.some_or]
    have starts := not_mem_of_any letter (show gaps.any isLetter = false by decide)
    exact .cons starts scanned later

end Scanning

/-- What the readers of names, labels and language tags admit. -/
def Kind.WellFormed : Kind → Prop
  | .var text => isVarName text.toList = true
  | .blank text => isBlankLabel text.toList = true
  | .langTag text => text.toList ≠ [] ∧ ∀ c ∈ text.toList, isTagChar c = true
  | _ => True

theorem wellFormed_of_var? {cs after : List Char} {kind : Kind} (found : var? cs = some (kind, after)) :
    kind.WellFormed := by
  unfold var? at found
  split at found
  · next c d cs =>
    split at found
    · next first =>
      cases found
      simp only [Bool.and_eq_true] at first
      simp [Kind.WellFormed, isVarName, first.2, List.all_takeWhile]
    · cases found
  · cases found

theorem wellFormed_of_blank? {cs after : List Char} {kind : Kind} (found : blank? cs = some (kind, after)) :
    kind.WellFormed := by
  unfold blank? at found
  split at found
  · next c cs =>
    dsimp only at found
    split at found
    · next first =>
      cases found
      simp only [Bool.and_eq_true] at first
      simp [Kind.WellFormed, isBlankLabel, first.1, first.2, List.all_takeWhile]
    · cases found
  · cases found

theorem wellFormed_of_langTag? {cs after : List Char} {kind : Kind} (found : langTag? cs = some (kind, after)) :
    kind.WellFormed := by
  unfold langTag? at found
  split at found
  · next cs =>
    split at found
    · cases found
    · next nonempty =>
      cases found
      simp only [Kind.WellFormed, String.toList_ofList]
      exact ⟨nonempty, List.all_eq_true.mp List.all_takeWhile⟩
  · cases found

def IsLabel (label : List Char) : Prop :=
  (∀ c ∈ label.head?, isLetter c = true) ∧ ∀ tail, dotted (label ++ ':' :: tail) = (label, ':' :: tail)

theorem dotted_label {cs label rest : List Char} (found : dotted cs = (label, ':' :: rest)) (tail : List Char) :
    dotted (label ++ ':' :: tail) = (label, ':' :: tail) := by
  induction cs generalizing label with
  | nil => cases found
  | cons c cs ih =>
    unfold dotted at found
    split at found
    · next inside =>
      rcases run : dotted cs with ⟨word, final⟩
      rw [run] at found
      cases found
      -- A dot belongs to the label only before a name character, and the colon is none.
      have next : (word ++ ':' :: tail).head?.any isNameChar = cs.head?.any isNameChar := by
        have whole := dotted_append cs
        rw [run] at whole
        rw [← whole]
        cases word <;> rfl
      simp only [List.cons_append, dotted, next, inside, ↓reduceIte, ih run]
    · cases found
      rfl

theorem isLabel_nil : IsLabel [] := ⟨by simp, fun _ => rfl⟩

theorem isLabel_of_dotted {c : Char} {cs label rest : List Char} (letter : isLetter c = true)
    (found : dotted (c :: cs) = (label, ':' :: rest)) : IsLabel label := by
  refine ⟨?_, dotted_label found⟩
  have name : isNameChar c = true := by simp [isNameChar, isLetterOrUnderscore, letter]
  simp only [dotted, name, Bool.true_or, ↓reduceIte] at found
  obtain ⟨rfl, -⟩ := Prod.mk.inj found
  simpa using letter

theorem scanOne?_label {label : List Char} (valid : IsLabel label) (tail : List Char) :
    scanOne? (label ++ ':' :: tail) = some (afterColon label tail) := by
  obtain ⟨starts, run⟩ := valid
  cases label with
  | nil =>
    rw [List.nil_append, scanOne?, operator?_eq_none _ (by decide), iri?_eq_none _ (by decide),
      placeholder?_eq_none _ (by decide), var?_eq_none _ (by decide) (by decide), blank?_eq_none _ (by decide),
      anon?_eq_none _ (by decide), langTag?_eq_none _ (by decide)]
    simp only [emptyLabel?, Option.none_or, Option.some_or]
  | cons c label =>
    have letter : isLetter c = true := starts c rfl
    have whole := run tail
    rw [List.cons_append] at whole ⊢
    rw [scanOne?_unmarked _ (not_mem_of_any letter (by decide))]
    simp only [word?, letter, ↓reduceIte, whole, Option.some_or]

def Kind.isFree : Kind → Bool
  | .var _ | .blank _ | .langTag _ | .nsLabel _ | .eof => false
  | _ => true

def Kind.isKeyword : Kind → Bool
  | .keyword _ => true
  | _ => false

theorem free_of_afterColon {label cs after : List Char} {kind : Kind} (valid : IsLabel label)
    (found : afterColon label cs = (kind, after)) :
    kind.isFree = true ∨ ∃ label, kind = .nsLabel label ∧ IsLabel label.toList := by
  unfold afterColon at found
  split at found
  · cases found; exact .inl rfl
  · cases found; exact .inr ⟨_, rfl, by rwa [String.toList_ofList]⟩

theorem free_of_word? {cs after : List Char} {kind : Kind} (found : word? cs = some (kind, after)) :
    kind.isFree = true ∨ ∃ label, kind = .nsLabel label ∧ IsLabel label.toList := by
  unfold word? at found
  split at found
  · cases found
  · split at found
    · next letter =>
      split at found
      · next run => exact free_of_afterColon (isLabel_of_dotted letter run) (Option.some.inj found)
      · split at found <;> (cases found; exact .inl rfl)
    · cases found

theorem ReadBy.free_or {cs after : List Char} {kind : Kind} (reader : ReadBy cs after kind) :
    kind.isFree = true ∧ kind.isKeyword = false ∨ var? cs = some (kind, after) ∨ blank? cs = some (kind, after) ∨
      langTag? cs = some (kind, after) ∨ emptyLabel? cs = some (kind, after) ∨ word? cs = some (kind, after) := by
  cases reader with
  | var found => exact .inr (.inl found)
  | blank found => exact .inr (.inr (.inl found))
  | langTag found => exact .inr (.inr (.inr (.inl found)))
  | emptyLabel found => exact .inr (.inr (.inr (.inr (.inl found))))
  | word found => exact .inr (.inr (.inr (.inr (.inr found))))
  | operator found =>
    unfold operator? at found
    split at found <;> cases found <;> exact .inl ⟨rfl, rfl⟩
  | iri found =>
    unfold iri? at found
    split at found
    · obtain ⟨_, -, same⟩ := Option.map_eq_some_iff.mp found; cases same; exact .inl ⟨rfl, rfl⟩
    · cases found
  | placeholder found =>
    unfold placeholder? at found
    split at found
    · obtain ⟨_, -, same⟩ := Option.map_eq_some_iff.mp found; cases same; exact .inl ⟨rfl, rfl⟩
    · cases found
  | anon found =>
    unfold anon? at found
    repeat' split at found
    all_goals cases found
    exact .inl ⟨rfl, rfl⟩
  | string found =>
    unfold string? at found
    split at found
    · cases found
    · split at found
      · obtain ⟨_, -, same⟩ := Option.map_eq_some_iff.mp found; cases same; exact .inl ⟨rfl, rfl⟩
      · cases found
  | double found =>
    obtain ⟨_, -, found⟩ := Option.bind_eq_some_iff.mp found
    obtain ⟨_, -, same⟩ := Option.map_eq_some_iff.mp found
    cases same
    exact .inl ⟨rfl, rfl⟩
  | decimal found =>
    obtain ⟨_, -, found⟩ := Option.bind_eq_some_iff.mp found
    dsimp only at found
    split at found <;> cases found
    exact .inl ⟨rfl, rfl⟩
  | integer found =>
    unfold integer? at found
    repeat' split at found
    all_goals cases found
    exact .inl ⟨rfl, rfl⟩
  | punct found =>
    unfold punct? at found
    split at found
    · cases found
    · obtain ⟨_, -, same⟩ := Option.map_eq_some_iff.mp found; cases same; exact .inl ⟨rfl, rfl⟩

theorem scanOne?_cases {cs after : List Char} {kind : Kind} (found : scanOne? cs = some (kind, after)) :
    kind.isFree = true ∨ (∃ label, kind = .nsLabel label ∧ IsLabel label.toList) ∨ var? cs = some (kind, after) ∨
      blank? cs = some (kind, after) ∨ langTag? cs = some (kind, after) := by
  rcases (readBy_of_scanOne? found).free_or with free | var | blank | tag | label | word
  · exact .inl free.1
  · exact .inr (.inr (.inl var))
  · exact .inr (.inr (.inr (.inl blank)))
  · exact .inr (.inr (.inr (.inr tag)))
  · unfold emptyLabel? at label
    split at label
    · exact (free_of_afterColon isLabel_nil (Option.some.inj label)).imp_right .inl
    · cases label
  · exact (free_of_word? word).imp_right .inl

theorem word?_of_keyword {cs after : List Char} {k : Keyword} (found : scanOne? cs = some (.keyword k, after)) :
    word? cs = some (.keyword k, after) := by
  rcases (readBy_of_scanOne? found).free_or with free | var | blank | tag | label | word
  · cases free.2
  · unfold var? at var
    repeat' split at var
    all_goals cases var
  · unfold blank? at blank
    dsimp only at blank
    repeat' split at blank
    all_goals cases blank
  · unfold langTag? at tag
    repeat' split at tag
    all_goals cases tag
  · unfold emptyLabel? afterColon at label
    repeat' split at label
    all_goals cases label
  · exact word

theorem wellFormed_of_scanOne? {cs after : List Char} {kind : Kind} (found : scanOne? cs = some (kind, after)) :
    kind.WellFormed := by
  rcases scanOne?_cases found with free | ⟨label, rfl, -⟩ | var | blank | tag
  · cases kind with
    | var _ | blank _ | langTag _ => cases free
    | _ => trivial
  · trivial
  · exact wellFormed_of_var? var
  · exact wellFormed_of_blank? blank
  · exact wellFormed_of_langTag? tag

theorem scanOne?_ne_eof {cs after : List Char} {kind : Kind} (found : scanOne? cs = some (kind, after)) :
    kind ≠ .eof ∧ ∀ label, kind = .nsLabel label → IsLabel label.toList := by
  rcases scanOne?_cases found with free | ⟨label, rfl, valid⟩ | var | blank | tag
  · cases kind with
    | nsLabel _ | eof => cases free
    | _ => simp
  · exact ⟨by simp, by rintro _ ⟨⟩; exact valid⟩
  · unfold var? at var
    repeat' split at var
    all_goals cases var
    simp
  · unfold blank? at blank
    dsimp only at blank
    repeat' split at blank
    all_goals cases blank
    simp
  · unfold langTag? at tag
    repeat' split at tag
    all_goals cases tag
    simp

theorem Lexes.wellFormed {cs : List Char} {kinds : List Kind} (lexes : Lexes cs kinds) :
    ∀ kind ∈ kinds, kind.WellFormed := by
  induction lexes with
  | done => simp [Kind.WellFormed]
  | token skipped scanned later ih =>
    intro kind member
    rcases List.mem_cons.mp member with rfl | member
    · exact wellFormed_of_scanOne? scanned
    · exact ih kind member

theorem Lexes.ends {cs : List Char} {kinds : List Kind} (lexes : Lexes cs kinds) :
    ∃ used, kinds = used ++ [Kind.eof] ∧ Kind.eof ∉ used := by
  induction lexes with
  | done => exact ⟨[], rfl, by simp⟩
  | @token cs rest after c kind kinds skipped scanned later ih =>
    obtain ⟨used, rfl, inner⟩ := ih
    exact ⟨kind :: used, rfl, by simp [inner, (scanOne?_ne_eof scanned).1.symm]⟩

theorem Lexes.isLabel {cs : List Char} {kinds : List Kind} (lexes : Lexes cs kinds) :
    ∀ label, .nsLabel label ∈ kinds → IsLabel label.toList := by
  induction lexes with
  | done => simp
  | token skipped scanned later ih =>
    intro label member
    rcases List.mem_cons.mp member with same | member
    · exact (scanOne?_ne_eof scanned).2 label same.symm
    · exact ih label member

theorem wellFormed_of_tokenize {text : String} {tokens : List Token} (scanned : tokenize text = .ok tokens) :
    ∀ t ∈ tokens, t.kind.WellFormed := by
  intro t member
  have lexes := exists_tokenize_iff.mp ⟨tokens, scanned, rfl⟩
  exact lexes.wellFormed t.kind (List.mem_map_of_mem member)

end TemplateQuery.Token
