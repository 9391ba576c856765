import TemplateQuery.Event.Printer
import TemplateQuery.Proofs.Iri.DotSegments
import TemplateQuery.Proofs.Term.RoundTrip
import TemplateQuery.Proofs.Token.Readers

/-! Terms in patterns keep their compact and relative forms, which are written without escapes for names. They are read
back as what they stand for when the form is one that the readers of names and IRIs take whole. Main statement:
`pattern_reads_back_iff`. -/

set_option autoImplicit false

namespace TemplateQuery

namespace Token

open Text

/-! ## Labels with dots -/

/-- Labels that a namespace may have: none, or a letter with name characters and dots after it, the last no dot. -/
def isPrefixName : List Char → Bool
  | [] => true
  | c :: cs => isLetter c && cs.all (fun d => isNameChar d || d == '.') && cs.getLast? != some '.'

abbrev doubleDot : List Char := ['.', '.']

theorem dotted_of_single {cs : List Char} (tail : List Char) (inside : ∀ d ∈ cs, isNameChar d = true ∨ d = '.')
    (last : cs.getLast? ≠ some '.') (single : ¬ doubleDot <:+: cs) :
    dotted (cs ++ ':' :: tail) = (cs, ':' :: tail) := by
  induction cs with
  | nil => rfl
  | cons c cs ih =>
    have takes : (isNameChar c || (c == '.' && (cs ++ ':' :: tail).head?.any isNameChar)) = true := by
      rcases inside c List.mem_cons_self with name | rfl
      · simp [name]
      · cases cs with
        | nil => simp at last
        | cons d cs =>
          have other : d ≠ '.' := by
            rintro rfl
            exact single ⟨[], cs, rfl⟩
          have name : isNameChar d = true := (inside d (by simp)).resolve_right other
          simp [name]
    have later := ih (fun d member => inside d (List.mem_cons_of_mem c member))
      (fun dot => last (by cases cs <;> simp_all)) fun double => single (List.infix_cons double)
    simp only [List.cons_append, dotted, takes, ↓reduceIte, later]

theorem dotted_of_double {cs : List Char} (tail : List Char) (inside : ∀ d ∈ cs, isNameChar d = true ∨ d = '.')
    (double : doubleDot <:+: cs) : ∃ front rest, dotted (cs ++ ':' :: tail) = (front, '.' :: rest) := by
  induction cs with
  | nil => simp at double
  | cons c cs ih =>
    by_cases takes : (isNameChar c || (c == '.' && (cs ++ ':' :: tail).head?.any isNameChar)) = true
    · have later : doubleDot <:+: cs := by
        rcases List.infix_cons_iff.mp double with ⟨rest, front⟩ | later
        · obtain ⟨rfl, rfl⟩ := List.cons.inj front
          cases takes
        · exact later
      obtain ⟨front, rest, run⟩ := ih (fun d member => inside d (List.mem_cons_of_mem c member)) later
      exact ⟨c :: front, rest, by simp only [List.cons_append, dotted, takes, ↓reduceIte, run]⟩
    · obtain rfl : c = '.' := by
        rcases inside c List.mem_cons_self with name | dot
        · simp [name] at takes
        · exact dot
      exact ⟨[], cs ++ ':' :: tail, by simp only [List.cons_append, dotted, takes]; rfl⟩

/-- A label is read whole when no two of its dots stand together, and else only a part of it, as a word. -/
theorem scanOne?_prefixName {label : List Char} (legal : isPrefixName label = true) (tail : List Char) :
    (¬ doubleDot <:+: label → scanOne? (label ++ ':' :: tail) = some (afterColon label tail)) ∧
      (doubleDot <:+: label → ∃ word rest, scanOne? (label ++ ':' :: tail) = some (word, rest) ∧
        ((∃ k, word = .keyword k) ∨ ∃ name, word = .name name)) := by
  cases label with
  | nil => exact ⟨fun _ => scanOne?_label isLabel_nil tail, fun double => by simp at double⟩
  | cons c cs =>
    simp only [isPrefixName, Bool.and_eq_true, List.all_eq_true, Bool.or_eq_true, beq_iff_eq, bne_iff_ne] at legal
    obtain ⟨⟨letter, inside⟩, last⟩ := legal
    have name : isNameChar c = true := by simp [isNameChar, isLetterOrUnderscore, letter]
    have all : ∀ d ∈ c :: cs, isNameChar d = true ∨ d = '.' := List.forall_mem_cons.mpr ⟨.inl name, inside⟩
    constructor
    · intro single
      refine scanOne?_label ⟨by simpa using letter, fun tail => dotted_of_single tail all ?_ single⟩ tail
      cases cs with
      | nil => rintro ⟨⟩; exact absurd letter (by decide)
      | cons d cs => rwa [List.getLast?_cons_cons]
    · intro double
      obtain ⟨front, rest, run⟩ := dotted_of_double tail all double
      rw [List.cons_append] at run ⊢
      rw [scanOne?_unmarked _ (not_mem_of_any letter (by decide))]
      simp only [word?, letter, ↓reduceIte, run]
      split
      · next same => cases same
      · next same =>
        cases same
        cases Keyword.ofWord? front with
        | some k => exact ⟨_, _, rfl, .inl ⟨k, rfl⟩⟩
        | none => exact ⟨_, _, rfl, .inr ⟨_, rfl⟩⟩

/-! ## Local parts without escapes -/

/-- Name characters, colons and percent codes. A dot has one of them after it. -/
def isPlainBody : List Char → Bool
  | [] => true
  | '%' :: a :: b :: cs => isHex a && isHex b && isPlainBody cs
  | '.' :: cs => cs.head?.any (fun c => isNameChar c || c == ':' || c == '%') && isPlainBody cs
  | c :: cs => (isNameChar c || c == ':') && isPlainBody cs

theorem isPlainBody_percent (a b : Char) (cs : List Char) :
    isPlainBody ('%' :: a :: b :: cs) = (isHex a && isHex b && isPlainBody cs) := rfl

theorem isPlainBody_dot (cs : List Char) :
    isPlainBody ('.' :: cs) = (cs.head?.any (fun c => isNameChar c || c == ':' || c == '%') && isPlainBody cs) := rfl

def isPlainLocal (cs : List Char) : Bool := cs.head?.any (fun c => isLocalStart c || c == '%') && isPlainBody cs

theorem localBody?_of_plain {cs : List Char} (plain : isPlainBody cs = true) : localBody? cs = some (cs, []) := by
  fun_induction isPlainBody cs with
  | case1 => rfl
  | case2 a b cs ih =>
    obtain ⟨hex, later⟩ := Bool.and_eq_true_iff.mp plain
    rw [localBody?_percent, if_pos hex, ih later]
    rfl
  | case3 cs ih =>
    obtain ⟨next, later⟩ := Bool.and_eq_true_iff.mp plain
    have goes : localContinues cs = true := by
      cases cs with
      | nil => cases next
      | cons c cs =>
        have inside : (isNameChar c || c == ':' || c == '%') = true := next
        simp [localContinues, inside]
    have apart : isNameChar '.' = false := by decide
    simp [localBody?.eq_def ('.' :: cs), apart, goes, ih later, prepend]
  | case4 c cs percent dot ih =>
    simp only [Bool.and_eq_true, Bool.or_eq_true, beq_iff_eq] at plain
    have apart : c ≠ '%' ∧ c ≠ '\\' := by
      constructor <;> (rintro rfl; exact absurd plain.1 (by decide))
    rw [localBody?.eq_def]
    split <;> simp_all [prepend]

/-- What is read of a local part is no longer than it, and as long only if it is plain. -/
theorem plain_of_localBody? {cs body rest : List Char} (found : localBody? cs = some (body, rest)) :
    body.length ≤ cs.length ∧ (body = cs → isPlainBody cs = true) := by
  fun_induction localBody? cs generalizing body with
  | case1 => cases found; exact ⟨Nat.le_refl _, fun _ => rfl⟩
  | case2 a b cs both ih =>
    obtain ⟨_, _, ⟨⟩, first, rfl⟩ := prepend_eq_some found
    obtain ⟨_, _, ⟨⟩, second, rfl⟩ := prepend_eq_some first
    obtain ⟨_, later, ⟨⟩, third, rfl⟩ := prepend_eq_some second
    obtain ⟨short, plain⟩ := ih third
    refine ⟨by simpa using short, fun same => ?_⟩
    simp only [List.cons.injEq, true_and] at same
    rw [isPlainBody_percent, both, plain same]
    rfl
  | case4 c cs escape ih =>
    -- An escape stands for one character, so that what is read is shorter than its text.
    obtain ⟨_, later, ⟨⟩, read, rfl⟩ := prepend_eq_some found
    have short := (ih read).1
    refine ⟨by simp; omega, fun same => ?_⟩
    have := congrArg List.length same
    simp at this
    omega
  | case6 c cs percent slash inside ih =>
    obtain ⟨_, later, ⟨⟩, read, rfl⟩ := prepend_eq_some found
    obtain ⟨short, plain⟩ := ih read
    refine ⟨by simpa using short, fun same => ?_⟩
    have apart : c ≠ '%' ∧ c ≠ '.' := by
      constructor <;> (rintro rfl; exact absurd inside (by decide))
    have whole := plain (List.cons.inj same).2
    rw [isPlainBody.eq_def]
    split <;> simp_all
  | case7 cs continues percent slash other ih =>
    obtain ⟨_, later, ⟨⟩, read, rfl⟩ := prepend_eq_some found
    obtain ⟨short, plain⟩ := ih read
    refine ⟨by simpa using short, fun same => ?_⟩
    have whole := plain (List.cons.inj same).2
    cases cs with
    | nil => simp [localContinues] at continues
    | cons d cs =>
      have apart : d ≠ '\\' := by
        rintro rfl
        cases whole
      simp only [localContinues, List.head?_cons, Option.any_some, beq_eq_false_iff_ne.mpr apart,
        Bool.or_false] at continues
      rw [isPlainBody_dot, whole]
      simp [continues]
  | case8 | case10 =>
    cases found
    simp
  | case3 | case5 | case9 => cases found

theorem localPart?_eq_self_iff {cs rest : List Char} :
    localPart? cs = some (cs, rest) ↔ isPlainLocal cs = true ∧ rest = [] := by
  cases cs with
  | nil => simp [localPart?, isPlainLocal]
  | cons c cs =>
    simp only [localPart?, isPlainLocal, List.head?_cons, Option.any_some]
    constructor
    · intro found
      split at found
      · next starts =>
        have plain := (plain_of_localBody? found).2 rfl
        have apart : c ≠ '\\' := by
          rintro rfl
          cases plain
        rw [localBody?_of_plain plain] at found
        simp only [beq_eq_false_iff_ne.mpr apart, Bool.or_false] at starts
        simp only [Option.some.injEq, Prod.mk.injEq, true_and] at found
        simp [starts, plain, found.symm]
      · cases found
    · rintro ⟨plain, rfl⟩
      obtain ⟨starts, body⟩ := Bool.and_eq_true_iff.mp plain
      rw [if_pos (by rw [starts, Bool.true_or]), localBody?_of_plain body]

end Token

theorem Token.Lexes.uncons {c : Char} {cs : List Char} {kinds : List Token.Kind} (starts : c ∉ Token.gaps)
    (lexes : Token.Lexes (c :: cs) kinds) :
    ∃ kind after later, Token.scanOne? (c :: cs) = some (kind, after) ∧ kinds = kind :: later := by
  have skipped := Token.skip_of_starts starts cs
  cases lexes with
  | done none => rw [skipped] at none; cases none
  | token first scanned _ =>
    rw [skipped] at first
    cases first
    exact ⟨_, _, _, scanned, rfl⟩

namespace Term

open Token Tokens

variable {p : Prologue}

/-! ## Terms of a pattern under a prologue -/

def readPattern? (p : Prologue) (ts : Tokens) : Except ReadError (Option (Term × Tokens)) :=
  match ts.kind with
  | .var name => .ok (some (.var name, ts.advance))
  | _ => readConstant? p ts

def ofPattern? (p : Prologue) (text : String) : Option Term :=
  match tokenize text with
  | .error _ => none
  | .ok tokens =>
    match readPattern? p tokens with
    | .ok (some (t, rest)) => if rest.kind = .eof then some t else none
    | _ => none

/-- What a pattern may hold: variables by a valid name, absolute IRIs, short forms that stand for what the prologue
makes of them, and literals with a tag that can be written. -/
def Faithful (p : Prologue) : Term → Prop
  | .var name => isVarName name.toList = true
  | .iri i => Iri.isAbsolute i = true
  | .curie label localPart i =>
    isPrefixName label.toList = true ∧ localPart ≠ "" ∧ ∃ ns, p.namespace? label = some ns ∧ i = ns ++ localPart
  | .reference relative resolved => ∃ base, p.base = some base ∧ resolved = Iri.resolve base relative
  | .blank _ => False
  | .literal _ .simple => True
  | .literal _ (.lang tag) => tag.toList ≠ [] ∧ ∀ c ∈ tag.toList, isTagChar c = true
  | .literal _ (.typed datatype) => Iri.isAbsolute datatype = true

def Legible : Term → Prop
  | .curie label localPart _ => ¬ doubleDot <:+: label.toList ∧ isPlainLocal localPart.toList = true
  | .reference relative _ =>
    relative.toList.head? ≠ some '=' ∧ (Iri.isAbsolute relative = true →
      ∀ s ∈ Iri.segments (Iri.split relative.toList).path, Iri.isDotSegment s = false)
  | _ => True

/-! ## Reading by kinds -/

section Reading

variable {ts : Tokens} {text : List Char} {t : Term}

theorem readPattern?_of_constant {found : Term × Tokens} (read : readConstant? p ts = .ok (some found)) :
    readPattern? p ts = .ok (some found) := by
  unfold readPattern?
  split
  · next kind => simp [readConstant?, kind] at read
  · exact read

theorem readPattern?_iri {iri : String} (kind : ts.kind = .iri iri) :
    readPattern? p ts = .ok (some (.iri (p.resolve iri), ts.advance)) :=
  readPattern?_of_constant (by simp only [readConstant?, readIri, kind]; rfl)

theorem readPattern?_prefixed {label localPart ns : String} (declared : p.namespace? label = some ns)
    (kind : ts.kind = .prefixed label localPart) :
    readPattern? p ts = .ok (some (.iri (ns ++ localPart), ts.advance)) :=
  readPattern?_of_constant (by simp only [readConstant?, readIri, kind, Prologue.expand, declared]; rfl)

theorem readPattern?_nsLabel {label ns : String} (declared : p.namespace? label = some ns)
    (kind : ts.kind = .nsLabel label) : readPattern? p ts = .ok (some (.iri (ns ++ ""), ts.advance)) :=
  readPattern?_of_constant (by simp only [readConstant?, readIri, kind, Prologue.expand, declared]; rfl)

theorem lexes_of_ofPattern? (found : ofPattern? p (String.ofList text) = some t) :
    ∃ tokens rest, Lexes text (tokens.map Token.kind) ∧ readPattern? p tokens = .ok (some (t, rest)) := by
  unfold ofPattern? at found
  split at found
  · cases found
  · next tokens scanned =>
    have lexes := exists_tokenize_iff.mp ⟨tokens, scanned, rfl⟩
    rw [String.toList_ofList] at lexes
    split at found
    · next t' rest read =>
      split at found
      · cases found; exact ⟨tokens, rest, lexes, read⟩
      · cases found
    · cases found

theorem ofPattern?_of_lexes (kinds : List Kind) (lexes : Lexes text (kinds ++ [Kind.eof]))
    (reads : ∀ tokens : Tokens, tokens.map Token.kind = kinds ++ [Kind.eof] →
      ∃ rest, readPattern? p tokens = .ok (some (t, rest)) ∧ rest.map Token.kind = [.eof]) :
    ofPattern? p (String.ofList text) = some t := by
  rw [← String.toList_ofList (l := text)] at lexes
  obtain ⟨tokens, scanned, same⟩ := exists_tokenize_iff.mpr lexes
  obtain ⟨rest, read, atEnd⟩ := reads tokens same
  simp only [ofPattern?, scanned, read, kind_of_map atEnd, ↓reduceIte]

theorem exists_read_of_scanOne? {c : Char} {cs after : List Char} {kind : Kind} (starts : c ∉ gaps)
    (scanned : scanOne? (c :: cs) = some (kind, after)) (found : ofPattern? p (String.ofList (c :: cs)) = some t) :
    ∃ (tokens : Tokens) (rest : Tokens), tokens.kind = kind ∧ readPattern? p tokens = .ok (some (t, rest)) := by
  obtain ⟨tokens, rest, lexes, read⟩ := lexes_of_ofPattern? found
  obtain ⟨first, _, later, again, same⟩ := lexes.uncons starts
  rw [scanned] at again
  cases again
  exact ⟨tokens, rest, kind_of_map same, read⟩

end Reading

/-! ## Each form of a term -/

theorem ofPattern?_var {name : String} (valid : isVarName name.toList = true) :
    ofPattern? p (String.ofList (patternChars (.var name))) = some (.var name) := by
  have scanned := scanOne?_var (.inr (Eq.refl '?')) valid (show Stop [] by simp [Stop])
  rw [List.append_nil, String.ofList_toList] at scanned
  refine ofPattern?_of_lexes [.var name] (.cons (by decide) scanned (.done rfl)) fun tokens same => ?_
  exact ⟨tokens.advance, by simp only [readPattern?, kind_of_map same], advance_of_map same (by simp)⟩

theorem ofPattern?_written {t : Term} (readable : t.Readable) (form : t.patternChars = t.writtenChars) :
    ofPattern? p (String.ofList t.patternChars) = some t.readBack := by
  rw [form]
  have lexes := lexes_written readable (show Stop [] by simp [Stop]) (.done rfl)
  rw [List.append_nil] at lexes
  refine ofPattern?_of_lexes _ lexes fun tokens same => ?_
  obtain ⟨rest, read, atEnd⟩ := readConstant?_writtenKinds (p := p) readable rfl same
  exact ⟨rest, readPattern?_of_constant read, atEnd⟩

theorem same_readBack (lexical : String) (tag : Tag) :
    (Term.literal lexical tag).readBack.same (Term.literal lexical tag).withCanonicalInteger = true := by
  cases tag with
  | simple | lang tag => simp [readBack, canonical, iri?, withCanonicalInteger, same]
  | typed datatype =>
    simp only [readBack, canonical, iri?, withCanonicalInteger]
    split <;> simp [typed, same]

theorem iri?_of_same {t other : Term} {i : String} (whole : other.iri? = some i) (alike : t.same other = true) :
    t.iri? = some i := by
  cases t <;> cases other <;> simp_all [same, iri?]

section Curie

variable {label localPart ns : String} (legal : isPrefixName label.toList = true)
  (declared : p.namespace? label = some ns)

include legal

theorem curie_starts (tail : List Char) : ∃ c cs, label.toList ++ ':' :: tail = c :: cs ∧ c ∉ gaps := by
  cases same : label.toList with
  | nil => exact ⟨_, _, rfl, by decide⟩
  | cons c cs =>
    simp only [same, isPrefixName, Bool.and_eq_true] at legal
    exact ⟨c, cs ++ ':' :: tail, rfl, not_mem_of_any legal.1.1 (by decide)⟩

include declared

theorem ofPattern?_curie (single : ¬ doubleDot <:+: label.toList) (plain : isPlainLocal localPart.toList = true) :
    ofPattern? p (String.ofList (label.toList ++ ':' :: localPart.toList)) = some (.iri (ns ++ localPart)) := by
  obtain ⟨c, cs, shape, starts⟩ := curie_starts legal localPart.toList
  have scanned := (scanOne?_prefixName legal localPart.toList).1 single
  rw [afterColon, localPart?_eq_self_iff.mpr ⟨plain, rfl⟩, shape] at scanned
  simp only [String.ofList_toList] at scanned
  rw [shape]
  refine ofPattern?_of_lexes [.prefixed label localPart] (.cons starts scanned (.done rfl)) ?_
  intro tokens same
  exact ⟨_, readPattern?_prefixed declared (kind_of_map same), advance_of_map same (by simp)⟩

omit declared in
theorem single_of_curie {t : Term} {i : String}
    (found : ofPattern? p (String.ofList (label.toList ++ ':' :: localPart.toList)) = some t) (same : t.iri? = some i) :
    ¬ doubleDot <:+: label.toList := by
  -- A label whose dots stand together starts with a word, and no word is read as an IRI.
  intro double
  obtain ⟨c, cs, shape, starts⟩ := curie_starts legal localPart.toList
  obtain ⟨word, rest, scanned, kind⟩ := (scanOne?_prefixName legal localPart.toList).2 double
  rw [shape] at found scanned
  obtain ⟨tokens, later, first, read⟩ := exists_read_of_scanOne? starts scanned found
  rcases kind with ⟨k, rfl⟩ | ⟨name, rfl⟩
  · -- Only the two truth values are constants, and they are no IRIs.
    cases k with
    | trueKw | falseKw => simp only [readPattern?, readConstant?, first] at read; cases read; cases same
    | _ => simp [readPattern?, readConstant?, first] at read
  · simp [readPattern?, readConstant?, first] at read

theorem legible_of_curie {t : Term} (filled : localPart ≠ "")
    (found : ofPattern? p (String.ofList (label.toList ++ ':' :: localPart.toList)) = some t)
    (same : t.iri? = some (ns ++ localPart)) :
    ¬ doubleDot <:+: label.toList ∧ isPlainLocal localPart.toList = true := by
  have single := single_of_curie legal found same
  refine ⟨single, ?_⟩
  obtain ⟨c, cs, shape, starts⟩ := curie_starts legal localPart.toList
  have scanned := (scanOne?_prefixName legal localPart.toList).1 single
  rw [shape] at found scanned
  unfold afterColon at scanned
  -- Behind the colon some of the local part is read, or none: the IRI is that of the whole, so all of it was.
  split at scanned
  · next body rest read' =>
    obtain ⟨tokens, later, first, read⟩ := exists_read_of_scanOne? starts scanned found
    rw [String.ofList_toList] at first
    rw [readPattern?_prefixed declared first] at read
    cases read
    have equal : String.ofList body = localPart := (String.append_right_inj ns).mp (Option.some.inj same)
    rw [← equal, String.toList_ofList] at read' ⊢
    exact (localPart?_eq_self_iff.mp read').1
  · obtain ⟨tokens, later, first, read⟩ := exists_read_of_scanOne? starts scanned found
    rw [String.ofList_toList] at first
    rw [readPattern?_nsLabel declared first] at read
    cases read
    exact absurd ((String.append_right_inj ns).mp (Option.some.inj same)).symm filled

end Curie

section Reference

variable {relative : String}

theorem writtenIri_cons (iri : List Char) : writtenIri iri = '<' :: (iri.flatMap writtenIriChar ++ ['>']) := rfl

theorem scanOne?_reference (plain : relative.toList.head? ≠ some '=') :
    scanOne? (writtenIri relative.toList) = some (.iri relative, []) := by
  have noEq : (relative.toList.flatMap writtenIriChar ++ ['>']).head? ≠ some '=' := by
    cases same : relative.toList with
    | nil => simp
    | cons c cs =>
      rw [same] at plain
      simp only [List.flatMap_cons, writtenIriChar]
      split
      · simpa using plain
      · split <;> simp
  have scanned := scanOne?_iri _ (iriBody?_written relative.toList []) noEq
  rwa [String.ofList_toList] at scanned

theorem ofPattern?_reference (plain : relative.toList.head? ≠ some '=') :
    ofPattern? p (String.ofList (writtenIri relative.toList)) = some (.iri (p.resolve relative)) := by
  have scanned := scanOne?_reference plain
  rw [writtenIri_cons] at scanned ⊢
  refine ofPattern?_of_lexes [.iri relative] (.cons (by decide) scanned (.done rfl)) fun tokens same => ?_
  exact ⟨_, readPattern?_iri (kind_of_map same), advance_of_map same (by simp)⟩

theorem plain_of_reference {t : Term} (found : ofPattern? p (String.ofList (writtenIri relative.toList)) = some t) :
    relative.toList.head? ≠ some '=' := by
  intro equals
  obtain ⟨cs, same⟩ : ∃ cs, relative.toList = '=' :: cs := by
    cases same : relative.toList with
    | nil => simp [same] at equals
    | cons c cs => simp_all
  have scanned : scanOne? (writtenIri relative.toList) = some (.punct .le, cs.flatMap writtenIriChar ++ ['>']) := by
    rw [same]
    rfl
  rw [writtenIri_cons] at scanned found
  obtain ⟨tokens, rest, first, read⟩ := exists_read_of_scanOne? (by decide) scanned found
  simp [readPattern?, readConstant?, first] at read

theorem resolve_eq_iff {base : String} (located : p.base = some base) :
    p.resolve relative = Iri.resolve base relative ↔ (Iri.isAbsolute relative = true →
      ∀ s ∈ Iri.segments (Iri.split relative.toList).path, Iri.isDotSegment s = false) := by
  simp only [Prologue.resolve, located]
  cases absolute : Iri.isAbsolute relative with
  | false => simp
  | true =>
    rw [← Iri.resolve_eq_self_iff base absolute]
    simp only [↓reduceIte, forall_const]
    exact eq_comm

end Reference

/-- What the printer writes for a term of a pattern is read back as that term, up to the digits of integers, whenever
its form is legible, and only then. -/
theorem pattern_reads_back_iff {t : Term} (faithful : t.Faithful p) :
    (∃ back, ofPattern? p (String.ofList t.patternChars) = some back ∧ back.same t.withCanonicalInteger = true) ↔
      t.Legible := by
  cases t with
  | var name => exact iff_of_true ⟨_, ofPattern?_var faithful, by simp [same, withCanonicalInteger]⟩ True.intro
  | iri i =>
    have readable : (Term.iri i).Readable := ⟨True.intro, by simpa [iris, Faithful] using faithful⟩
    refine iff_of_true ⟨_, ofPattern?_written readable rfl, ?_⟩ True.intro
    simp [readBack, canonical, same, withCanonicalInteger, iri?]
  | blank label => cases faithful
  | literal lexical tag =>
    have readable : (Term.literal lexical tag).Readable := by
      cases tag with
      | simple => exact ⟨True.intro, by simp [iris]⟩
      | lang tag => exact ⟨faithful, by simp [iris]⟩
      | typed datatype => exact ⟨True.intro, by simpa [iris, Faithful] using faithful⟩
    exact iff_of_true ⟨_, ofPattern?_written readable rfl, same_readBack lexical tag⟩ True.intro
  | curie label localPart i =>
    -- Only compact IRIs and references can fail, since the other forms are written with escapes.
    obtain ⟨legal, filled, ns, declared, rfl⟩ := faithful
    constructor
    · rintro ⟨back, found, alike⟩
      exact legible_of_curie legal declared filled found (iri?_of_same rfl alike)
    · rintro ⟨single, plain⟩
      exact ⟨_, ofPattern?_curie legal declared single plain, by simp [same, withCanonicalInteger, iri?]⟩
  | reference relative resolved =>
    obtain ⟨base, located, rfl⟩ := faithful
    constructor
    · rintro ⟨back, found, alike⟩
      have plain := plain_of_reference found
      refine ⟨plain, (resolve_eq_iff located).mp ?_⟩
      have read := (ofPattern?_reference (p := p) plain).symm.trans found
      cases read
      simpa [same, withCanonicalInteger, iri?] using alike
    · rintro ⟨plain, undotted⟩
      refine ⟨_, ofPattern?_reference plain, ?_⟩
      rw [(resolve_eq_iff located).mpr undotted]
      simp [same, withCanonicalInteger, iri?]

/-- A local part with a dot and a percent code comes back, and so does a reference with a blank. A local part with a
slash does not, nor does a reference that starts with `=`, nor an absolute one with dot segments. -/
theorem pattern_reads_back_at_home :
    let readsBack (t : Term) :=
      ∃ back, ofPattern? atHome (String.ofList t.patternChars) = some back ∧ back.same t.withCanonicalInteger = true
    readsBack (.curie "e" "a.b%20c" "urn:e:a.b%20c") ∧ readsBack (.reference "../a b" "http://home/a b") ∧
    ¬ readsBack (.curie "e" "a/b" "urn:e:a/b") ∧ ¬ readsBack (.reference "=x" "http://home/=x") ∧
    ¬ readsBack (.reference "http://x/a/../b" "http://x/b") := by
  intro readsBack
  have short : ∀ localPart, localPart ≠ "" → Faithful atHome (.curie "e" localPart ("urn:e:" ++ localPart)) :=
    fun localPart filled => ⟨by decide, filled, "urn:e:", by decide, rfl⟩
  have located : ∀ relative, Faithful atHome (.reference relative (Iri.resolve "http://home/" relative)) :=
    fun _ => ⟨_, rfl, rfl⟩
  refine ⟨(pattern_reads_back_iff (short "a.b%20c" (by decide))).mpr ⟨by decide, by decide⟩,
    (pattern_reads_back_iff (located "../a b")).mpr ⟨by decide, by decide⟩, fun back => ?_, fun back => ?_,
    fun back => ?_⟩
  · exact absurd ((pattern_reads_back_iff (short "a/b" (by decide))).mp back).2 (by decide)
  · exact absurd rfl ((pattern_reads_back_iff (located "=x")).mp back).1
  · exact absurd (((pattern_reads_back_iff (located "http://x/a/../b")).mp back).2 (by decide)) (by decide)

end Term

end TemplateQuery
