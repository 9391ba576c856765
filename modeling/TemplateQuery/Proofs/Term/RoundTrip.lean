import TemplateQuery.Proofs.Term.Lexing

/-! Written terms are read back: an IRI in its absolute form, an integer in canonical digits, any other term as it is.
Reading under an absolute prologue gives only terms of that kind, so writing what was read is a normal form. -/

set_option autoImplicit false

namespace TemplateQuery

theorem ok_of_bind {ε α β : Type} {x : Except ε α} {f : α → Except ε β} {b : β} (ran : x >>= f = .ok b) :
    ∃ a, x = .ok a ∧ f a = .ok b := by
  cases x with
  | error fault => cases ran
  | ok a => exact ⟨a, rfl, ran⟩

theorem ok_of_map {ε α β : Type} {x : Except ε α} {f : α → β} {b : β} (ran : x.map f = .ok b) :
    ∃ a, x = .ok a ∧ f a = b := by
  cases x with
  | error fault => cases ran
  | ok a => exact ⟨a, rfl, Except.ok.inj ran⟩

namespace Tokens

variable {ts rest : Tokens} {kind other : Token.Kind} {kinds : List Token.Kind} {what : String}

theorem kind_of_map (same : ts.map Token.kind = kind :: kinds) : ts.kind = kind := by
  cases ts with
  | nil => cases same
  | cons t ts => simp only [List.map_cons, List.cons.injEq] at same; exact same.1

theorem length_of_map (same : ts.map Token.kind = kinds) : ts.length = kinds.length := by
  rw [← same, List.length_map]

theorem advance_of_map
    (same : ts.map Token.kind = kind :: kinds) (more : kind ≠ .eof) : ts.advance.map Token.kind = kinds := by
  cases ts with
  | nil => cases same
  | cons t ts =>
    simp only [List.map_cons, List.cons.injEq] at same
    rw [advance, if_neg (same.1 ▸ more)]
    exact same.2

theorem advance_subset (ts : Tokens) : ts.advance ⊆ ts := by
  unfold advance
  split
  · exact fun t member => member
  · split
    · exact fun t member => member
    · exact fun t member => List.mem_cons_of_mem _ member

theorem wellFormed_kind (formed : ∀ t ∈ ts, t.kind.WellFormed) : ts.kind.WellFormed := by
  cases ts with
  | nil => trivial
  | cons t ts => exact formed t List.mem_cons_self

theorem accept?_of_map (same : ts.map Token.kind = kind :: kinds) : ts.accept? kind = some ts.advance := by
  rw [accept?, kind_of_map same, if_pos rfl]

theorem accept?_other (same : ts.map Token.kind = kind :: kinds) (differ : kind ≠ other) : ts.accept? other = none := by
  rw [accept?, kind_of_map same, if_neg differ]

theorem accept?_eq_some_iff : ts.accept? kind = some rest ↔ ts.kind = kind ∧ ts.advance = rest := by
  simp [accept?]

theorem accept?_some (found : ts.accept? kind = some rest) : rest ⊆ ts := by
  obtain ⟨-, rfl⟩ := accept?_eq_some_iff.mp found
  exact ts.advance_subset

theorem accept?_of_expect (ran : ts.expect kind what = .ok rest) : ts.accept? kind = some rest := by
  unfold expect at ran
  split at ran
  · next found => cases ran; exact found
  · cases ran

theorem expect_ok (ran : ts.expect kind what = .ok rest) : rest ⊆ ts :=
  accept?_some (accept?_of_expect ran)

end Tokens

namespace Term

open Token Tokens

def withCanonicalInteger : Term → Term
  | .literal lexical (.typed datatype) =>
    match integer? lexical datatype with
    | some n => .typed (String.ofList (Number.intText n)) Vocabulary.xsdInteger
    | none => .typed lexical datatype
  | t => t

def readBack (t : Term) : Term := t.canonical.withCanonicalInteger

theorem readBack_typed (lexical datatype : String) :
    readBack (.literal lexical (.typed datatype)) =
      match integer? lexical datatype with
      | some n => .typed (String.ofList (Number.intText n)) Vocabulary.xsdInteger
      | none => .typed lexical datatype := rfl

def normalize? (p : Prologue) (text : String) : Option String := (ofWritten? p text).map written

section Reading

variable {p : Prologue} {ts : Tokens} {kinds : List Kind}

/-- Kinds that would be drawn into a string before them. -/
def tagsString : Kind → Bool
  | .langTag _ | .punct .doubleCaret => true
  | _ => false

theorem readIri_of_map {iri : String} (absolute : Iri.isAbsolute iri = true)
    (same : ts.map Token.kind = .iri iri :: kinds) :
    readIri p ts = .ok (iri, ts.advance) := by
  simp only [readIri, kind_of_map same, p.resolve_of_isAbsolute absolute]

theorem readTag_of_map {text : String} {kind : Kind} (same : ts.map Token.kind = kind :: kinds)
    (ends : tagsString kind = false) : readTag p text ts = .ok (.plain text, ts) := by
  unfold readTag
  rw [kind_of_map same]
  split
  · cases ends
  · cases ends
  · rfl

theorem readNumber?_of_map {digits : String} (sign : String) (same : ts.map Token.kind = .integer digits :: kinds) :
    readNumber? sign ts = some (.typed (sign ++ digits) Vocabulary.xsdInteger, ts.advance) := by
  simp only [readNumber?, kind_of_map same]

theorem readConstant?_intKinds {n : Int} (same : ts.map Token.kind = intKinds n ++ kinds) :
    ∃ rest, readConstant? p ts = .ok (some (.typed (String.ofList (Number.intText n)) Vocabulary.xsdInteger, rest)) ∧
      rest.map Token.kind = kinds := by
  unfold intKinds at same
  unfold Number.intText
  split at same
  · next negative =>
    have digits := advance_of_map same (by simp)
    refine ⟨ts.advance.advance, ?_, advance_of_map digits (by simp)⟩
    have text : "-" ++ String.ofList (Number.natText n.natAbs) = String.ofList ('-' :: Number.natText n.natAbs) := by
      apply String.toList_inj.mp
      simp
    rw [if_pos negative, ← text]
    simp only [readConstant?, kind_of_map same, readNumber?_of_map "-" digits]
  · next positive =>
    refine ⟨ts.advance, ?_, advance_of_map same (by simp)⟩
    rw [if_neg positive]
    simp only [readConstant?, kind_of_map same, readNumber?_of_map "" same, String.empty_append]

theorem readConstant?_iriKind {iri : String} (absolute : Iri.isAbsolute iri = true)
    (same : ts.map Token.kind = .iri iri :: kinds) :
    ∃ rest, readConstant? p ts = .ok (some (.iri iri, rest)) ∧ rest.map Token.kind = kinds := by
  refine ⟨ts.advance, ?_, advance_of_map same (by simp)⟩
  simp only [readConstant?, kind_of_map same, readIri_of_map absolute same]
  rfl

theorem readConstant?_writtenKinds {t : Term} {kind : Kind} (readable : t.Readable) (ends : tagsString kind = false)
    (same : ts.map Token.kind = t.writtenKinds ++ kind :: kinds) :
    ∃ rest, readConstant? p ts = .ok (some (t.readBack, rest)) ∧ rest.map Token.kind = kind :: kinds := by
  obtain ⟨spelt, absolute⟩ := readable
  cases t with
  | var name => cases spelt
  -- Three kinds of terms are written as the same IRI, so all three come back as it.
  | iri i => exact readConstant?_iriKind (absolute i (by simp [iris])) same
  | curie label localPart i => exact readConstant?_iriKind (absolute i (by simp [iris])) same
  | reference relative i => exact readConstant?_iriKind (absolute i (by simp [iris])) same
  | blank label =>
    exact ⟨ts.advance, by simp only [readConstant?, kind_of_map same]; rfl, advance_of_map same (by simp)⟩
  | literal lexical tag =>
    cases tag with
    | simple =>
      have after := advance_of_map same (by simp)
      refine ⟨ts.advance, ?_, after⟩
      simp only [readConstant?, kind_of_map same, readTag_of_map after ends]
      rfl
    | lang tag =>
      have after := advance_of_map same (by simp)
      refine ⟨ts.advance.advance, ?_, advance_of_map after (by simp)⟩
      simp only [readConstant?, kind_of_map same, readTag, kind_of_map after]
      rfl
    | typed datatype =>
      rw [readBack_typed]
      simp only [writtenKinds] at same
      cases number : integer? lexical datatype with
      | some n =>
        rw [number] at same
        exact readConstant?_intKinds same
      | none =>
        rw [number] at same
        have caret := advance_of_map same (by simp)
        have type := advance_of_map caret (by simp)
        refine ⟨ts.advance.advance.advance, ?_, advance_of_map type (by simp)⟩
        simp only [readConstant?, kind_of_map same, readTag, kind_of_map caret,
          readIri_of_map (absolute datatype (by simp [iris])) type]
        rfl

/-- What every term drawn from tokens has: the rest is part of the tokens, labels and tags are theirs, and IRIs are
absolute where the prologue is. -/
structure Drawn (p : Prologue) (ts : Tokens) (t : Term) (rest : Tokens) : Prop where
  spelt : t.Spelt
  canonical : t.canonical = t
  rest : rest ⊆ ts
  absolute : p.Absolute → ∀ i ∈ t.iris, Iri.isAbsolute i = true

theorem Drawn.of_advance {t : Term} {rest : Tokens} (drawn : Drawn p ts.advance t rest) : Drawn p ts t rest :=
  { drawn with rest := fun _ member => ts.advance_subset (drawn.rest member) }

theorem readIri_ok {iri : String} {rest : Tokens} (ran : readIri p ts = .ok (iri, rest)) :
    rest = ts.advance ∧ (p.Absolute → Iri.isAbsolute iri = true) := by
  have expanded : ∀ {label localPart : String},
      (p.expand label localPart).map (fun i => (i, ts.advance)) = .ok (iri, rest) →
      rest = ts.advance ∧ (p.Absolute → Iri.isAbsolute iri = true) := by
    intro label localPart ran
    obtain ⟨i, found, same⟩ := ok_of_map ran
    cases same
    exact ⟨rfl, fun absolute => absolute.expand found⟩
  unfold readIri at ran
  split at ran
  · cases ran; exact ⟨rfl, fun absolute => absolute.resolve _⟩
  · exact expanded ran
  · exact expanded ran
  · cases ran

theorem readNumber?_some {sign : String} {t : Term} {rest : Tokens} (ran : readNumber? sign ts = some (t, rest)) :
    Drawn p ts t rest := by
  unfold readNumber? at ran
  split at ran <;> cases ran
  · exact ⟨trivial, rfl, ts.advance_subset, fun _ => by simp [iris, typed]; decide⟩
  · exact ⟨trivial, rfl, ts.advance_subset, fun _ => by simp [iris, typed]; decide⟩
  · exact ⟨trivial, rfl, ts.advance_subset, fun _ => by simp [iris, typed]; decide⟩

theorem readTag_ok (formed : ∀ t ∈ ts, t.kind.WellFormed) {text : String} {t : Term} {rest : Tokens}
    (ran : readTag p text ts = .ok (t, rest)) : Drawn p ts t rest := by
  have formedKind := wellFormed_kind formed
  unfold readTag at ran
  split at ran
  · next kind =>
    cases ran
    rw [kind] at formedKind
    exact ⟨formedKind, rfl, ts.advance_subset, fun _ => by simp [iris]⟩
  · obtain ⟨⟨datatype, after⟩, found, same⟩ := ok_of_map ran
    cases same
    obtain ⟨rfl, absolute⟩ := readIri_ok found
    refine ⟨trivial, rfl, ?_, fun whole => by simpa [iris, typed] using absolute whole⟩
    exact fun t member => ts.advance_subset (ts.advance.advance_subset member)
  · cases ran
    exact ⟨trivial, rfl, fun t member => member, fun _ => by simp [iris, plain]⟩

theorem readConstant?_some (formed : ∀ t ∈ ts, t.kind.WellFormed) {t : Term} {rest : Tokens}
    (ran : readConstant? p ts = .ok (some (t, rest))) : Drawn p ts t rest := by
  have formedKind := wellFormed_kind formed
  have asIri : (readIri p ts).map (fun read => some (Term.iri read.1, read.2)) = .ok (some (t, rest)) →
      Drawn p ts t rest := by
    intro ran
    obtain ⟨⟨i, after⟩, found, same⟩ := ok_of_map ran
    cases same
    obtain ⟨rfl, absolute⟩ := readIri_ok found
    exact ⟨trivial, rfl, ts.advance_subset, fun whole => by simpa [iris] using absolute whole⟩
  unfold readConstant? at ran
  split at ran
  -- A sign is a token of its own, and so is the text before a tag.
  · exact (readNumber?_some (Except.ok.inj ran)).of_advance
  · exact (readNumber?_some (Except.ok.inj ran)).of_advance
  · exact readNumber?_some (Except.ok.inj ran)
  · exact readNumber?_some (Except.ok.inj ran)
  · exact readNumber?_some (Except.ok.inj ran)
  · cases ran
    exact ⟨trivial, rfl, ts.advance_subset, fun _ => by simp [iris, boolean, typed]; decide⟩
  · cases ran
    exact ⟨trivial, rfl, ts.advance_subset, fun _ => by simp [iris, boolean, typed]; decide⟩
  · next kind =>
    cases ran
    rw [kind] at formedKind
    exact ⟨formedKind, rfl, ts.advance_subset, fun _ => by simp [iris]⟩
  · next text kind =>
    obtain ⟨read, found, same⟩ := ok_of_map ran
    cases same
    exact (readTag_ok (fun t member => formed t (ts.advance_subset member)) found).of_advance
  · exact asIri ran
  · exact asIri ran
  · exact asIri ran
  · cases ran

end Reading

theorem writtenChars_starts {t : Term} (spelt : t.Spelt) :
    ∃ c cs, t.writtenChars = c :: cs ∧ startsWritten c = true := by
  cases t with
  | var name => cases spelt
  | iri i | curie label localPart i | reference relative i => exact ⟨_, _, rfl, by decide⟩
  | blank label => exact ⟨_, _, rfl, by decide⟩
  | literal lexical tag =>
    cases tag with
    | simple | lang tag => exact ⟨_, _, rfl, by decide⟩
    | typed datatype =>
      simp only [writtenChars, writtenLiteral]
      split
      · next n _ =>
        unfold Number.intText
        split
        · exact ⟨_, _, rfl, by decide⟩
        · obtain ⟨c, cs, same, digit⟩ := Number.exists_cons_natText n.natAbs
          exact ⟨c, cs, same, by simp [startsWritten, digit]⟩
      · exact ⟨_, _, rfl, by decide⟩

theorem ofWritten?_written (p : Prologue) {t : Term} (readable : t.Readable) :
    ofWritten? p t.written = some t.readBack := by
  obtain ⟨c, cs, same, starts⟩ := writtenChars_starts readable.1
  have lexes := lexes_written readable (show Stop [] by simp [Stop]) (.done rfl)
  rw [List.append_nil, ← String.toList_ofList (l := t.writtenChars)] at lexes
  obtain ⟨tokens, scanned, kinds⟩ := exists_tokenize_iff.mpr lexes
  obtain ⟨rest, ran, atEnd⟩ := readConstant?_writtenKinds (p := p) readable rfl kinds
  have front : t.written.toList = c :: cs := by rw [written, String.toList_ofList, same]
  simp only [ofWritten?, front, starts, Bool.not_true, Bool.false_eq_true, ↓reduceIte]
  rw [written, scanned]
  simp only [ran, kind_of_map atEnd, ↓reduceIte]

theorem written_readBack (t : Term) : t.readBack.written = t.written := by
  cases t with
  | var name | iri i | curie label localPart i | reference relative i | blank label => rfl
  | literal lexical tag =>
    cases tag with
    | simple | lang tag => rfl
    | typed datatype =>
      rw [readBack_typed]
      split
      · next n number =>
        have digits : integer? (String.ofList (Number.intText n)) Vocabulary.xsdInteger = some n := by
          rw [integer?, if_pos rfl, String.toList_ofList, Number.readInteger?_intText]
        simp only [written, typed, writtenChars, writtenLiteral_typed, number, digits]
      · rfl

theorem drawn_of_ofWritten? {p : Prologue} {text : String} {t : Term} (found : ofWritten? p text = some t) :
    ∃ ts rest, Drawn p ts t rest := by
  unfold ofWritten? at found
  split at found
  · cases found
  · split at found
    · cases found
    · split at found
      · cases found
      · next tokens scanned =>
        split at found
        · next t' rest ran =>
          split at found
          · cases found
            exact ⟨tokens, rest, readConstant?_some (wellFormed_of_tokenize scanned) ran⟩
          · cases found
        · cases found

theorem readable_of_ofWritten? {p : Prologue} (absolute : p.Absolute) {text : String} {t : Term}
    (found : ofWritten? p text = some t) : t.Readable := by
  obtain ⟨ts, rest, drawn⟩ := drawn_of_ofWritten? found
  exact ⟨drawn.spelt, drawn.absolute absolute⟩

/-- Writing and reading back gives a term's normal form, under every prologue. Under an absolute one only such terms
are read, so that what is written of them is a normal form of text. -/
theorem written_reads_back (p : Prologue) :
    (∀ t : Term, t.Readable → ofWritten? p t.written = some t.readBack) ∧
    (p.Absolute → (∀ text t, ofWritten? p text = some t → t.Readable) ∧
      ∀ text, (normalize? p text).bind (normalize? p) = normalize? p text) := by
  refine ⟨fun t readable => ofWritten?_written p readable, fun absolute => ⟨fun text t found => ?_, fun text => ?_⟩⟩
  · exact readable_of_ofWritten? absolute found
  · cases found : ofWritten? p text with
    | none => simp [normalize?, found]
    | some t =>
      have again := ofWritten?_written p (readable_of_ofWritten? absolute found)
      simp [normalize?, found, again, written_readBack]

def atHome : Prologue := { base := some "http://home/", namespaces := [("e", "urn:e:")] }

theorem written_reads_back_at_home :
    ofWritten? atHome (written (.typed "-007" Vocabulary.xsdInteger)) = some (.typed "-7" Vocabulary.xsdInteger) ∧
    ofWritten? atHome (written (.reference "a b" "urn:a b")) = some (.iri "urn:a b") ∧
    (normalize? atHome "e:x").bind (normalize? atHome) = normalize? atHome "e:x" := by
  have absolute : atHome.Absolute := ⟨⟨"http://home/", rfl, by decide⟩, by decide⟩
  have number := (written_reads_back atHome).1 (.typed "-007" Vocabulary.xsdInteger) ⟨trivial, by decide⟩
  have iri := (written_reads_back atHome).1 (.reference "a b" "urn:a b") ⟨trivial, by decide⟩
  refine ⟨?_, iri, ((written_reads_back atHome).2 absolute).2 "e:x"⟩
  rw [number]
  decide

end Term

end TemplateQuery
