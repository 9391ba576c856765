import TemplateQuery.Proofs.Template.Parts
import TemplateQuery.Proofs.Token.Open

/-! Prepared text is read again as the template it came from. The template keeps its tokens when the table behind it is
cut off and written anew, so that the declarations are read as before and the new table is the last one. Main statement:
`prepare_reads_again`. -/

set_option autoImplicit false

namespace TemplateQuery

/-! ## No three quotes in a table -/

namespace Term

open Token

theorem quote_not_mem_writtenIri (iri : List Char) : '"' ∉ writtenIri iri := by
  have each : ∀ c, '"' ∉ writtenIriChar c := by
    intro c
    have digits : ∀ width n, '"' ∉ Text.hexTextUpper width n :=
      fun width n member => absurd (Text.isHex_of_mem_hexTextUpper member) (by decide)
    unfold writtenIriChar
    split
    · next inside =>
      intro member
      rw [← List.mem_singleton.mp member] at inside
      exact absurd inside (by decide)
    · split <;> simp [digits]
  simp [writtenIri, each]

theorem calm_quoted (text : List Char) : Calm '"' (quoted text) := by
  -- A quote inside comes after its backslash, so that only the closing quote can follow it.
  have inner : Calm '"' (text.flatMap quotedChar ++ ['"']) := by
    induction text with
    | nil => exact fun found => absurd found.length_le (by simp)
    | cons c text ih =>
      have escaped : ∀ d, Calm '"' ('\\' :: d :: (text.flatMap quotedChar ++ ['"'])) := by
        intro d
        have quoted : Calm '"' (d :: (text.flatMap quotedChar ++ ['"'])) := ih.cons d (take_quoted text (by simp))
        exact show Calm '"' (['\\'] ++ _) from .after (by decide) quoted
      rw [List.flatMap_cons, List.append_assoc]
      unfold quotedChar
      split
      · exact escaped _
      · exact escaped _
      · exact escaped _
      · exact escaped _
      · exact escaped _
      · next other _ _ _ => exact .after (by simpa [eq_comm] using other) ih
  have whole : quoted text = '"' :: (text.flatMap quotedChar ++ ['"']) := by simp [quoted]
  rw [whole]
  exact inner.cons '"' (take_quoted text (by simp))

/-- No term has three quotes in a row in its written form, whatever its text. -/
theorem calm_writtenChars {t : Term} (spelt : t.Spelt) : Calm '"' t.writtenChars := by
  cases t with
  | var name => cases spelt
  | iri i | curie label localPart i | reference relative i => exact calm_of_absent (quote_not_mem_writtenIri i.toList)
  | blank label =>
    have absent : '"' ∉ label.toList := by
      have valid : isBlankLabel label.toList = true := spelt
      intro member
      cases chars : label.toList with
      | nil => rw [chars] at member; cases member
      | cons c cs =>
        rw [chars, isBlankLabel] at valid
        simp only [Bool.and_eq_true, List.all_eq_true] at valid
        rw [chars] at member
        rcases List.mem_cons.mp member with rfl | inside
        · exact absurd valid.1.1 (by decide)
        · exact absurd (valid.1.2 '"' inside) (by decide)
    exact calm_of_absent (by simpa [writtenChars] using absent)
  | literal lexical tag =>
    cases tag with
    | simple => exact calm_quoted lexical.toList
    | lang tag =>
      have absent : '"' ∉ tag.toList := fun member => absurd (spelt.2 '"' member) (by decide)
      exact (calm_quoted lexical.toList).append (by decide) (calm_of_absent absent)
    | typed datatype =>
      rw [writtenChars, writtenLiteral_typed]
      split
      · exact calm_of_absent (Number.not_mem_intText (by decide) _)
      · refine (calm_quoted lexical.toList).append (by decide) (calm_of_absent ?_)
        simpa using quote_not_mem_writtenIri datatype.toList

end Term

namespace Template

open Token Query Tokens

variable {q : Template}

section Calm

variable {quote : Char} (mark : isQuote quote = true)

include mark

theorem calm_cells {row : Row} {tail : List Char} (cells : ∀ cell ∈ row, ∀ t ∈ cell, Calm quote t.writtenChars)
    (last : Calm quote tail) : Calm quote (row.flatMap cellChars ++ tail) := by
  have which := isQuote_cases mark
  induction row with
  | nil => exact last
  | cons cell row ih =>
    have inner : Calm quote (cell.elim "UNDEF".toList Term.writtenChars) := by
      cases cell with
      | none => exact calm_of_absent (by rcases which with rfl | rfl <;> decide)
      | some t => exact cells (some t) List.mem_cons_self t rfl
    have later := ih fun c member => cells c (List.mem_cons_of_mem cell member)
    have whole := inner.append (c := ' ') (by rcases which with rfl | rfl <;> decide) later
    simpa [cellChars] using whole

theorem calm_rows {rows : List Row} {tail : List Char}
    (cells : ∀ row ∈ rows, ∀ cell ∈ row, ∀ t ∈ cell, Calm quote t.writtenChars) (last : Calm quote tail) :
    Calm quote (rows.flatMap rowChars ++ tail) := by
  have which := isQuote_cases mark
  induction rows with
  | nil => exact last
  | cons row rows ih =>
    have later := ih fun r member => cells r (List.mem_cons_of_mem row member)
    have closed : Calm quote (")\n".toList ++ (rows.flatMap rowChars ++ tail)) :=
      .after (by rcases which with rfl | rfl <;> decide) later
    have whole : Calm quote ("\t(".toList ++ (row.flatMap cellChars ++ (")\n".toList ++ _))) :=
      .after (by rcases which with rfl | rfl <;> decide) (calm_cells mark (cells row List.mem_cons_self) closed)
    rw [List.flatMap_cons, rowChars]
    simpa only [List.append_assoc] using whole

theorem calm_table (names : ∀ name ∈ q.names, isVarName name.toList = true) {rows : List Row}
    (cells : ∀ row ∈ rows, ∀ cell ∈ row, ∀ t ∈ cell, Calm quote t.writtenChars) : Calm quote (q.tableChars rows) := by
  have which := isQuote_cases mark
  have closing : Calm quote "\x7d\n".toList := calm_of_absent (by rcases which with rfl | rfl <;> decide)
  have body := calm_rows mark cells closing
  have columns : quote ∉ q.names.flatMap fun name => ' ' :: '$' :: name.toList := by
    intro member
    obtain ⟨name, declared, inside⟩ := List.mem_flatMap.mp member
    have absent : quote ∉ name.toList := by
      intro within
      have char := isVarChar_of_isVarName (names name declared) quote within
      rcases which with rfl | rfl <;> exact absurd char (by decide)
    rcases which with rfl | rfl <;> simp [absent] at inside
  have opened : quote ∉ "\nBINDINGS".toList ++ q.names.flatMap (fun name => ' ' :: '$' :: name.toList) ++
      " \x7b\n".toList := by
    rcases which with rfl | rfl <;> simpa using columns
  unfold tableChars
  split
  · exact calm_of_absent (by simp)
  · rw [List.append_assoc]
    exact .after opened body

end Calm

/-! ## The declarations in front -/

def endsPrologue : Kind → Bool
  | .keyword .base | .keyword .declare | .iri _ | .nsLabel _ => false
  | _ => true

/-- Two runs of tokens with the same kinds, up to a token from which neither declares anything. -/
structure Alike (used : List Kind) (ts us : Tokens) : Prop where
  inner : .eof ∉ used
  left : ∃ kind kinds, ts.map Token.kind = used ++ kind :: kinds ∧ endsPrologue kind = true
  right : ∃ kind kinds, us.map Token.kind = used ++ kind :: kinds ∧ endsPrologue kind = true

namespace Alike

variable {used : List Kind} {ts us : Tokens}

theorem kind (alike : Alike used ts us) : us.kind = ts.kind ∨ endsPrologue us.kind = true := by
  obtain ⟨-, ⟨kind, kinds, left, -⟩, ⟨other, others, right, stops⟩⟩ := alike
  cases used with
  | nil => exact .inr (by rwa [kind_of_map right])
  | cons first used => exact .inl ((kind_of_map right).trans (kind_of_map left).symm)

theorem next (alike : Alike used ts us) (more : endsPrologue ts.kind = false) :
    us.kind = ts.kind ∧ ∃ first later, used = first :: later ∧ Alike later ts.advance us.advance := by
  obtain ⟨inner, ⟨kind, kinds, left, ends⟩, ⟨other, others, right, stops⟩⟩ := alike
  cases used with
  | nil =>
    rw [kind_of_map left, ends] at more
    cases more
  | cons first used =>
    obtain ⟨proper, inner⟩ : first ≠ .eof ∧ Kind.eof ∉ used := by simpa [eq_comm] using inner
    refine ⟨(kind_of_map right).trans (kind_of_map left).symm, first, used, rfl, inner, ?_, ?_⟩
    · exact ⟨kind, kinds, advance_of_map left proper, ends⟩
    · exact ⟨other, others, advance_of_map right proper, stops⟩

theorem readPrologue {fuel enough : Nat} {p final : Prologue} {rest : Tokens} (alike : Alike used ts us)
    (long : used.length < fuel) (plenty : used.length < enough)
    (ran : Query.readPrologue p fuel ts = .ok (final, rest)) :
    ∃ rest, Query.readPrologue p enough us = .ok (final, rest) := by
  -- A declaration takes the same tokens off both runs, so that they stay alike and no fuel runs out before.
  induction fuel generalizing enough p ts us used with
  | zero => cases long
  | succ fuel ih =>
    obtain _ | enough := enough
    · cases plenty
    rw [Query.readPrologue] at ran ⊢
    split at ran
    · next atBase =>
      obtain ⟨base, first, used₁, rfl, after⟩ := alike.next (by rw [atBase]; rfl)
      dsimp only at ran
      split at ran
      · next iri atIri =>
        obtain ⟨target, second, used₂, rfl, later⟩ := after.next (by rw [atIri]; rfl)
        simp only [base, atBase, target, atIri]
        simp only [List.length_cons] at long plenty
        exact ih later (by omega) (by omega) ran
      · cases ran
    · next atDeclare =>
      obtain ⟨declare, first, used₁, rfl, after⟩ := alike.next (by rw [atDeclare]; rfl)
      dsimp only at ran
      split at ran
      · next label atLabel =>
        obtain ⟨name, second, used₂, rfl, beyond⟩ := after.next (by rw [atLabel]; rfl)
        split at ran
        · next iri atIri =>
          obtain ⟨target, third, used₃, rfl, later⟩ := beyond.next (by rw [atIri]; rfl)
          simp only [declare, atDeclare, name, atLabel, target, atIri]
          simp only [List.length_cons] at long plenty
          exact ih later (by omega) (by omega) ran
        · cases ran
      · cases ran
    · next noBase noDeclare =>
      cases ran
      split
      · next atBase =>
        rcases alike.kind with same | ends
        · exact absurd (same.symm.trans atBase) noBase
        · rw [atBase] at ends; cases ends
      · next atDeclare =>
        rcases alike.kind with same | ends
        · exact absurd (same.symm.trans atDeclare) noDeclare
        · rw [atDeclare] at ends; cases ends
      · exact ⟨us, rfl⟩

end Alike

/-! ## The table at the end -/

theorem startsTable_writtenKinds (t : Term) : ∀ kind ∈ t.writtenKinds, startsTable kind = false := by
  cases t with
  | var name | iri i | curie label localPart i | reference relative i | blank label =>
    simp [Term.writtenKinds, startsTable]
  | literal lexical tag =>
    cases tag with
    | simple | lang tag => simp [Term.writtenKinds, startsTable]
    | typed datatype =>
      simp only [Term.writtenKinds]
      split
      · unfold Term.intKinds
        dsimp only
        split <;> simp [startsTable]
      · simp [startsTable]

theorem startsTable_rowsKinds (rows : List Row) : ∀ kind ∈ rowsKinds rows [.eof], startsTable kind = false := by
  have cells : ∀ cell : Option Term, ∀ kind ∈ cellKinds cell, startsTable kind = false := by
    intro cell
    cases cell with
    | none => simp [cellKinds, startsTable]
    | some t => exact startsTable_writtenKinds t
  intro kind member
  simp only [rowsKinds, rowKinds, List.mem_append, List.mem_flatMap, List.mem_cons, List.not_mem_nil,
    or_false] at member
  rcases member with ⟨row, -, (rfl | ⟨cell, -, inside⟩) | rfl⟩ | rfl | rfl
  · rfl
  · exact cells cell kind inside
  · rfl
  · rfl
  · rfl

theorem tableKinds_eq (names : List String) (rows : List Row) :
    ∃ kinds, tableKinds names rows = .keyword .bindings :: kinds ∧ ∀ kind ∈ kinds, startsTable kind = false := by
  refine ⟨_, rfl, fun kind member => ?_⟩
  rcases List.mem_append.mp member with named | body
  · obtain ⟨name, -, rfl⟩ := List.mem_map.mp named
    rfl
  · rcases List.mem_cons.mp body with rfl | inside
    · rfl
    · exact startsTable_rowsKinds rows kind inside

theorem endsPrologue_of_startsTable {kind : Kind} (starts : startsTable kind = true) : endsPrologue kind = true := by
  rcases startsTable_iff.mp starts with rfl | rfl <;> rfl

theorem exists_tableChars (declared : q.bindings ≠ []) (rows : List Row) :
    ∃ more, q.tableChars rows = '\n' :: 'B' :: more := by
  have some : q.bindings.isEmpty = false := by simpa using declared
  simp [tableChars, some]

theorem fits_table {rows : List Row} {kinds : List Kind} (names : ∀ name ∈ q.names, isVarName name.toList = true)
    (declared : q.bindings ≠ []) (readable : ∀ row ∈ rows, ∀ cell ∈ row, Cell.Readable cell)
    (kept : Lexes q.text.toList kinds) (plain : Text.contains opening q.text.toList = false)
    (quiet : leavesOpen q.text.toList = false ∨
      ∀ row ∈ rows, ∀ cell ∈ row, ∀ t ∈ cell, Calm '\'' t.writtenChars) :
    AtTokens (Fits (q.tableChars rows)) q.text.toList := by
  have calm := calm_table (show isQuote '"' = true from rfl) names fun row member cell inside t found =>
    Term.calm_writtenChars (readable row member cell inside t found).1.1
  have silent := quiet.imp_right (calm_table (show isQuote '\'' = true from rfl) names)
  have unopened : ¬ opening <:+: q.text.toList := by rwa [← Text.contains_iff_infix, Bool.not_eq_true]
  obtain ⟨more, shape⟩ := exists_tableChars declared rows
  rw [shape] at calm silent ⊢
  exact kept.fits_of_calm unopened rfl calm.of_cons (silent.imp_right Calm.of_cons)

theorem Parts.readPrologue {text : String} (parts : Parts text q)
    (kept : Lexes q.text.toList (parts.front.map Token.kind ++ [Kind.eof]))
    {ts : Tokens} {kind : Kind} {kinds : List Kind}
    (starts : startsTable kind = true) (same : ts.map Token.kind = parts.front.map Token.kind ++ kind :: kinds) :
    ∃ rest, Query.readPrologue {} ts.length ts = .ok (parts.prologue, rest) := by
  obtain ⟨used, ended, inner⟩ := kept.ends
  rw [← List.append_cancel_right ended] at inner
  have alike : Alike (parts.front.map Token.kind) (parts.front ++ parts.table :: parts.later) ts := by
    refine ⟨inner, ⟨parts.table.kind, parts.later.map Token.kind, by simp, ?_⟩, ⟨kind, kinds, same, ?_⟩⟩
    · exact endsPrologue_of_startsTable parts.starts
    · exact endsPrologue_of_startsTable starts
  obtain ⟨_, declared⟩ := parts.declared
  refine alike.readPrologue (by simp) ?_ declared
  rw [length_of_map same]
  simp

/-- The kept text with a table of the parameters behind it is read as the same template, with the cells of the first
row. -/
theorem Parts.read {text : String} (parts : Parts text q) {rows : List Row}
    (kept : Lexes q.text.toList (parts.front.map Token.kind ++ [Kind.eof]))
    (fits : AtTokens (Fits (q.tableChars rows)) q.text.toList)
    (names : ∀ name ∈ q.names, isVarName name.toList = true) (declared : q.bindings ≠ [])
    (readable : ∀ row ∈ rows, ∀ cell ∈ row, Cell.Readable cell) (wide : ∀ row ∈ rows, row.length = q.names.length)
    (systemId : String) :
    ofText (q.text ++ String.ofList (q.tableChars rows)) systemId =
      .ok { q with systemId, bindings := samples ⟨q.names, rows.map (·.map cellBack)⟩ } := by
  obtain ⟨more, shape⟩ := exists_tableChars declared rows
  have table := lexes_table names declared readable
  rw [shape] at fits table
  have bare : Lexes ('B' :: more) (tableKinds q.names rows) := table.skip_eq rfl
  have atTable : skip ('B' :: more) = 'B' :: more := rfl
  have reaches := kept.reaches rfl (by decide) fits (.inl rfl)
  rw [atTable] at reaches
  have whole := reaches.lexes bare
  obtain ⟨kinds, same, absent⟩ := tableKinds_eq q.names rows
  have chars : (q.text ++ String.ofList (q.tableChars rows)).toList = q.text.toList ++ '\n' :: 'B' :: more := by
    rw [String.toList_append, String.toList_ofList, shape]
  rw [← chars] at reaches whole
  obtain ⟨tokens, scanned, alike⟩ := exists_tokenize_iff.mpr whole
  rw [same] at alike
  obtain ⟨front, rest, rfl, shared, atEnd⟩ := List.map_eq_append_iff.mp alike
  obtain ⟨t, later, rfl, keyword, inside⟩ := List.map_eq_cons_iff.mp atEnd
  have starts : startsTable t.kind = true := by rw [keyword]; rfl
  -- The table starts where it was appended, so that the text before it is the kept one again.
  have before : Text.trimEnd (Text.takeBytes (Tokens.offset (t :: later))
      (q.text ++ String.ofList (q.tableChars rows)).toList) = q.text.toList := by
    rw [← shared] at reaches
    rw [takeBytes_of_reaches scanned (chars.trans (List.append_cons ..)) reaches, Text.trimEnd_append_blank (by decide),
      parts.trimmed]
  have last : lastTable? 0 (front ++ t :: later) = some (t :: later) := by
    refine lastTable?_append ?_ starts (by rwa [inside])
    rw [shared]
    exact parts.outside
  obtain ⟨_, declarations⟩ := parts.readPrologue kept rfl alike
  obtain ⟨rest, inline, done⟩ := readInline_of_map (p := parts.prologue) readable wide (atEnd.trans same.symm)
  unfold ofText
  simp only [scanned, bind, Except.bind, declarations, last, inline, done, before]
  simp [parts.namespaces]

/-! ## Preparing without values -/

theorem product_singletons (row : Row) : product (row.map fun cell => [cell]) = [row] := by
  induction row using List.reverseRecOn with
  | nil => rfl
  | append_singleton row cell ih =>
    rw [List.map_append, List.map_singleton, product_append_singleton, ih]
    rfl

theorem rows_unsupplied (q : Template) : q.rows [] = .ok [q.bindings.map Prod.snd] := by
  have readable : q.unreadable? [] = none := List.findSome?_eq_none_iff.mpr fun name member => rfl
  have columns : q.bindings.map (q.values []) = (q.bindings.map Prod.snd).map fun cell => [cell] := by
    rw [List.map_map]
    rfl
  rw [rows_eq, readable, columns, product_singletons]

def withCanonicalIntegers (q : Template) : Template :=
  { q with bindings := q.bindings.map fun (name, sample) => (name, sample.map Term.withCanonicalInteger) }

theorem samples_of_bindings (bindings : List (String × Option Term)) :
    samples ⟨bindings.map Prod.fst, [bindings.map Prod.snd].map (·.map cellBack)⟩ =
      bindings.map fun (name, sample) => (name, sample.map Term.withCanonicalInteger) := by
  apply List.ext_getElem
  · simp [samples]
  · intro i inside within
    have bound : i < bindings.length := by simpa using within
    simp [samples, cellBack, bound]

theorem cellChars_cellBack {cell : Option Term} (readable : Cell.Readable cell) :
    cellChars (cell.map Term.withCanonicalInteger) = cellChars cell := by
  cases cell with
  | none => rfl
  | some t =>
    have written := congrArg String.toList (Term.written_readBack t)
    rw [Term.readBack, (readable t rfl).2] at written
    simpa [cellChars, Term.written] using written

theorem withCanonicalIntegers_tableChars (readable : ∀ binding ∈ q.bindings, Cell.Readable binding.2) :
    q.withCanonicalIntegers.tableChars [q.withCanonicalIntegers.bindings.map Prod.snd] =
      q.tableChars [q.bindings.map Prod.snd] := by
  have names : q.withCanonicalIntegers.names = q.names := by simp [names, withCanonicalIntegers]
  have empty : q.withCanonicalIntegers.bindings.isEmpty = q.bindings.isEmpty := by simp [withCanonicalIntegers]
  have cells : (q.withCanonicalIntegers.bindings.map Prod.snd).flatMap cellChars =
      (q.bindings.map Prod.snd).flatMap cellChars := by
    simp only [withCanonicalIntegers, List.map_map, List.flatMap_map]
    exact List.flatMap_congr fun binding member => cellChars_cellBack (readable binding member)
  simp only [tableChars, names, empty, List.flatMap_singleton, rowChars, cells]

theorem mem_sampleRow {P : Option Term → Prop} (each : ∀ binding ∈ q.bindings, P binding.2) :
    ∀ row ∈ [q.bindings.map Prod.snd], ∀ cell ∈ row, P cell := by
  intro row member cell inside
  obtain rfl := List.mem_singleton.mp member
  obtain ⟨binding, among, rfl⟩ := List.mem_map.mp inside
  exact each binding among

/-- A text without inline expressions that declares parameters is prepared, without values, into a text that is read as
the same template, with the same samples up to the form of their integers, and prepared into itself. The blanks before
the table are to hold no U+1680, which is trimmed off although names may end with it; and no sample is to hold three
apostrophes when a string that never ends is opened with them. -/
theorem prepare_reads_again {text systemId : String} (read : ofText text systemId = .ok q)
    (plain : Text.contains opening text.toList = false) (declared : q.bindings ≠ [])
    (absolute : ∀ binding ∈ q.bindings, ∀ t ∈ binding.2, ∀ i ∈ t.iris, Iri.isAbsolute i = true)
    (uncut : oghamSpace ∉ (text.toList.drop q.text.toList.length).takeWhile Text.isBlank)
    (quiet : leavesOpen q.text.toList = false ∨
      ∀ binding ∈ q.bindings, ∀ t ∈ binding.2, Calm '\'' t.writtenChars)
    (now : DateTime) (next : Nat) :
    ∃ out, q.prepare now next [] = .ok out ∧ ofText out systemId = .ok q.withCanonicalIntegers ∧
      ∀ later following, q.withCanonicalIntegers.prepare later following [] = .ok out := by
  obtain ⟨parts⟩ := exists_parts read declared
  have names := ofText_names read
  obtain ⟨rfl, formed⟩ := ofText_formed read
  have readable : ∀ binding ∈ q.bindings, Cell.Readable binding.2 := by
    intro binding member t found
    obtain ⟨spelt, canonical⟩ := (formed binding member).2 t found
    exact ⟨⟨spelt, absolute binding member t found⟩, canonical⟩
  have unopened := parts.plain plain
  have kept := parts.keeps (parts.loose uncut) plain
  have cells := mem_sampleRow readable
  have fits := fits_table names declared cells kept unopened (quiet.imp_right mem_sampleRow)
  refine ⟨_, prepare_of_plain unopened q.rows_unsupplied now next, ?_, fun later following => ?_⟩
  · rw [parts.read kept fits names declared cells (by simp [Template.names]) q.systemId]
    rw [Template.names, samples_of_bindings]
    rfl
  · have same : Text.contains opening q.withCanonicalIntegers.text.toList = false := unopened
    rw [prepare_of_plain same (rows_unsupplied _), withCanonicalIntegers_tableChars readable]
    rfl

/-- A query with a comment, a table inside braces, and a string that is left open right before its own table. -/
def unended : Template :=
  { text := "PREFIX e: <urn:e:> ASK \x7b VALUES ?y \x7b1\x7d \x7d # VALUES\n'''a'"
    systemId := "a:b"
    namespaces := [("e", "urn:e:")]
    bindings := [("x", some (.plain "\"'")), ("y", some (.typed "007" Vocabulary.xsdInteger))] }

theorem prepare_reads_again_unended :
    let now : DateTime := ⟨⟨1970, 1, 1, by decide⟩, ⟨0, 0, 0, 0, by decide⟩, none⟩
    ∃ out again, unended.prepare now 0 [] = .ok out ∧ ofText out "a:b" = .ok again ∧ again.text = unended.text ∧
      again.bindings = [("x", some (.plain "\"'")), ("y", some (.typed "7" Vocabulary.xsdInteger))] ∧
      again.prepare now 0 [] = .ok out := by
  intro now
  have read : ofText ("PREFIX e: <urn:e:> ASK \x7b VALUES ?y \x7b1\x7d \x7d # VALUES\n'''a'" ++
      "BINDINGS$x $y\x7b(\"\\\"'\" 007)\x7d") "a:b" = .ok unended := by decide +kernel
  have calm : ∀ binding ∈ unended.bindings, ∀ t ∈ binding.2, Calm '\'' t.writtenChars := by decide +kernel
  obtain ⟨out, prepared, back, twice⟩ := prepare_reads_again read (by decide +kernel) (by decide) (by decide +kernel)
    (by decide +kernel) (.inr calm) now 0
  exact ⟨out, unended.withCanonicalIntegers, prepared, back, rfl, by decide +kernel, twice now 0⟩

-- A letter that counts as a blank is trimmed off the name before the table, and what is left of it is no token.
example :
    (ofText "ASK \x7b\x7d ORDER BY $\u1680 BINDINGS $x \x7b1\x7d" "a:b").map Template.text =
      .ok "ASK \x7b\x7d ORDER BY $" ∧
    (ofText "ASK \x7b\x7d ORDER BY $\nBINDINGS $x \x7b\n\t(1 )\n\x7d\n" "a:b").isOk = false := by decide +kernel

-- Three apostrophes of a sample end the string that three others open, once they are no longer escaped.
example :
    (ofText "ASK \x7b\x7d '''a' BINDINGS $x \x7b\"''\\u0027\"\x7d" "a:b").map Template.bindings =
      .ok [("x", some (.plain "'''"))] ∧
    (ofText "ASK \x7b\x7d '''a'\nBINDINGS $x \x7b\n\t(\"'''\" )\n\x7d\n" "a:b").isOk = false := by decide +kernel

end Template

end TemplateQuery
