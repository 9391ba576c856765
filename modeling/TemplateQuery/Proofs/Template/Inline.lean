import TemplateQuery.Proofs.Eval.Rows
import TemplateQuery.Proofs.Expression.Embedding
import TemplateQuery.Proofs.Template.Header
import TemplateQuery.Proofs.Template.Table

/-! Inline expressions. The query that is written for one is read as it was meant, and its result is the value of the
expression in the first row of values, so that nothing of the query shows in what is prepared. -/

set_option autoImplicit false

namespace TemplateQuery.Template

open Token Tokens Query

variable {q : Template}

/-! ## The text of an inline query -/

def dataKinds (q : Template) (rows : List Row) : List Kind :=
  if q.bindings.isEmpty then [.eof] else tableKinds q.names rows

def shellKinds (kinds : List Kind) : List Kind :=
  .var valueName :: .punct .rparen :: .punct .lbrace :: .punct .rbrace :: .keyword .limit :: .integer "1" :: kinds

theorem lexes_data (valid : ∀ name ∈ q.names, isVarName name.toList = true) {rows : List Row}
    (readable : ∀ row ∈ rows, ∀ cell ∈ row, Cell.Readable cell) :
    Lexes ('1' :: q.tableChars rows) (.integer "1" :: q.dataKinds rows) := by
  cases bare : q.bindings.isEmpty with
  | true =>
    simp only [tableChars, dataKinds, bare, ↓reduceIte]
    exact .cons (by decide) rfl (.done rfl)
  | false =>
    have lexes := lexes_table valid (by simpa using bare) readable
    simp only [dataKinds, bare, Bool.false_eq_true, ↓reduceIte]
    have shape : q.tableChars rows = '\n' :: (q.tableChars rows).tail := by simp [tableChars, bare]
    have scanned : scanOne? ('1' :: '\n' :: (q.tableChars rows).tail) =
        some (.integer "1", '\n' :: (q.tableChars rows).tail) := rfl
    rw [← shape] at scanned
    exact .cons (by decide) scanned lexes

theorem lexes_shell {tail : List Char} {kinds : List Kind} (later : Lexes ('1' :: tail) (.integer "1" :: kinds)) :
    Lexes ('A' :: ("S ?".toList ++ valueName.toList ++ ") \x7b\x7d LIMIT 1".toList ++ tail))
      (.keyword .asKw :: shellKinds kinds) := by
  have limit : Lexes ("LIMIT".toList ++ ' ' :: _) (.keyword .limit :: _) :=
    lexes_keyword (by decide) (by decide) (by decide) (by simp [Stop]) (.space rfl later)
  have group : Lexes ('\x7b' :: '\x7d' :: ' ' :: _) (.punct .lbrace :: .punct .rbrace :: _) :=
    .cons (by decide) (scanOne?_mark _ rfl (by decide))
      (.cons (by decide) (scanOne?_mark _ rfl (by decide)) (.space rfl limit))
  have close : Lexes (')' :: ' ' :: _) (.punct .rparen :: _) :=
    .cons (by decide) (scanOne?_mark _ rfl (by decide)) (.space rfl group)
  have scanned : scanOne? ('?' :: '_' :: 'v' :: 'a' :: 'l' :: 'u' :: 'e' :: ')' :: ' ' :: '\x7b' :: '\x7d' :: ' ' ::
      ("LIMIT".toList ++ ' ' :: '1' :: tail)) = some (.var valueName, _) := rfl
  have value := Lexes.cons (by decide) scanned close
  have whole : Lexes ("AS".toList ++ ' ' :: _) (.keyword .asKw :: _) :=
    lexes_keyword (by decide) (by decide) (by decide) (by simp [Stop]) (.space rfl value)
  simpa [shellKinds, valueName] using whole

/-- An inline query lexes to the tokens of its parts, and the expression to those that it has alone. -/
theorem Headed.lexes_inlineQuery (headed : q.Headed) (valid : ∀ name ∈ q.names, isVarName name.toList = true)
    {rows : List Row} (readable : ∀ row ∈ rows, ∀ cell ∈ row, Cell.Readable cell) {expression : List Char}
    {used : List Kind} (lexes : Lexes expression (used ++ [Kind.eof])) (spaced : Spaced used)
    (unbraced : '\x7d' ∉ expression) (closed : endsInComment expression = false) :
    Lexes (q.inlineQuery rows expression) (q.headerKinds ++ Kind.keyword .select :: .punct .lparen ::
      (used ++ Kind.keyword .asKw :: shellKinds (q.dataKinds rows))) := by
  have shell := lexes_shell (lexes_data valid readable)
  have inner := lexes.before spaced unbraced closed (by decide) shell
  have select : Lexes ("SELECT".toList ++ ' ' :: '(' :: _) (.keyword .select :: .punct .lparen :: _) :=
    lexes_keyword (by decide) (by decide) (by decide) (by simp [Stop])
      (.space rfl (.cons (by decide) (scanOne?_mark _ rfl (by decide)) inner))
  have whole := headed.lexes select
  simpa [inlineQuery, valueName] using whole

theorem unbraced_of_splitInline? {text before expression after : List Char}
    (found : splitInline? text = some (before, expression, after)) : '\x7d' ∉ expression := by
  obtain ⟨⟨front, rest⟩, -, found⟩ := Option.bind_eq_some_iff.mp found
  obtain ⟨⟨body, final⟩, atClosing, same⟩ := Option.bind_eq_some_iff.mp found
  cases same
  intro member
  exact absurd (Text.clear_of_splitAt? atClosing _ member) (by decide)

/-! ## The query that is read -/

def inlined (q : Template) (rows : List Row) (e : Expression) : Query :=
  { prologue := q.scope
    modifier := none
    projection := .columns [.computed e valueName]
    limit := some 1
    offset := none
    data := if q.bindings.isEmpty then none else some ⟨q.names, rows.map (·.map cellBack)⟩ }

section Reading

variable {p : Prologue} {ts : Tokens} {kinds : List Kind}

theorem expect_of_map {kind : Kind} (what : String) (same : ts.map Token.kind = kind :: kinds) :
    ts.expect kind what = .ok ts.advance := by
  rw [expect, accept?_of_map same]

theorem readProjection_of_map {used later : List Kind} {e : Expression} {atAs : Tokens} {name : String}
    (same : ts.map Token.kind = .punct .lparen :: (used ++ Kind.keyword .asKw :: later))
    (read : Expression.read p ts.advance = .ok (e, atAs))
    (after : atAs.map Token.kind = .keyword .asKw :: .var name :: .punct .rparen :: .punct .lbrace :: kinds) :
    ∃ rest, readProjection p ts = .ok (.columns [.computed e name], rest) ∧
      rest.map Token.kind = .punct .lbrace :: kinds := by
  have var := advance_of_map after (by simp)
  have close := advance_of_map var (by simp)
  have brace := advance_of_map close (by simp)
  refine ⟨atAs.advance.advance.advance, ?_, brace⟩
  have fuel : ts.length = used.length + later.length + 1 + 1 := by
    rw [length_of_map same]
    simp only [List.length_append, List.length_cons]
    omega
  rw [readProjection, accept?_other same (by simp), fuel, readColumns]
  simp only [kind_of_map same, read, expect_of_map _ after, kind_of_map var, expect_of_map _ close, bind, Except.bind,
    readColumns, kind_of_map brace, List.isEmpty_cons, Bool.false_eq_true, ↓reduceIte]

theorem readSlices_of_map {fuel : Nat} {kind : Kind} (ends : kind ≠ .keyword .limit ∧ kind ≠ .keyword .offset)
    (enough : 1 < fuel) (same : ts.map Token.kind = .keyword .limit :: .integer "1" :: kind :: kinds) :
    readSlices none none fuel ts = .ok (some 1, none, ts.advance.advance) := by
  have digits := advance_of_map same (by simp)
  have final := advance_of_map digits (by simp)
  have count : readCount "LIMIT" ts.advance = .ok (1, ts.advance.advance) := by
    simp only [readCount, kind_of_map digits]
    rfl
  obtain ⟨fuel, rfl⟩ := Nat.exists_eq_add_of_lt enough
  rw [readSlices]
  simp only [kind_of_map same, count, bind, Except.bind]
  rw [Nat.add_comm, readSlices]
  split
  · next found => exact absurd ((kind_of_map final).symm.trans found) ends.1
  · next found => exact absurd ((kind_of_map final).symm.trans found) ends.2
  · rfl

theorem readInline_data {rows : List Row} (readable : ∀ row ∈ rows, ∀ cell ∈ row, Cell.Readable cell)
    (wide : ∀ row ∈ rows, row.length = q.names.length) (same : ts.map Token.kind = q.dataKinds rows) (e : Expression) :
    ∃ rest, readInline p ts = .ok ((q.inlined rows e).data, rest) ∧ rest.kind = .eof := by
  unfold dataKinds at same
  unfold inlined
  split at same
  · next bare =>
    refine ⟨ts, ?_, kind_of_map same⟩
    rw [readInline, accept?_other same (by simp), accept?_other same (by simp), if_pos bare]
    rfl
  · next filled =>
    rw [if_neg filled]
    exact readInline_of_map readable wide same

theorem dataKinds_starts (q : Template) (rows : List Row) :
    ∃ kind kinds, q.dataKinds rows = kind :: kinds ∧ kind ≠ .keyword .limit ∧ kind ≠ .keyword .offset := by
  unfold dataKinds
  split <;> exact ⟨_, _, rfl, by simp, by simp⟩

theorem ofTokens_inlined {used : List Kind} {alone rest : Tokens} {e : Expression} {rows : List Row}
    (inner : Kind.eof ∉ used) (short : alone.map Token.kind = used ++ [Kind.eof])
    (read : Expression.read q.scope alone = .ok (e, rest)) (whole : rest.kind = .eof)
    (readable : ∀ row ∈ rows, ∀ cell ∈ row, Cell.Readable cell) (wide : ∀ row ∈ rows, row.length = q.names.length)
    (same : ts.map Token.kind = q.headerKinds ++ Kind.keyword .select :: .punct .lparen ::
      (used ++ Kind.keyword .asKw :: shellKinds (q.dataKinds rows))) :
    ofTokens ts = .ok (q.inlined rows e) := by
  -- One reader after the other, each with the kinds that the one before it has left.
  obtain ⟨select, prologue, atSelect⟩ := readPrologue_header (by simp) same
  have atParen := advance_of_map atSelect (by simp)
  have atExpression := advance_of_map atParen (by simp)
  obtain ⟨atAs, again, afterExpression⟩ := Expression.read_before inner short read whole atExpression
  obtain ⟨group, projection, atGroup⟩ := readProjection_of_map atParen again afterExpression
  have atClose := advance_of_map atGroup (by simp)
  have atLimit := advance_of_map atClose (by simp)
  obtain ⟨kind, kinds, starts, ends⟩ := dataKinds_starts q rows
  have slices : readSlices none none group.advance.advance.length group.advance.advance =
      .ok (some 1, none, group.advance.advance.advance.advance) := by
    rw [starts] at atLimit
    refine readSlices_of_map ends ?_ atLimit
    rw [length_of_map atLimit]
    simp
  obtain ⟨final, data, atEnd⟩ := readInline_data readable wide
    (advance_of_map (advance_of_map atLimit (by simp)) (by simp)) e (p := q.scope)
  have modifier : readModifier select.advance = (none, select.advance) := by
    simp only [readModifier, kind_of_map atParen]
  have empty : Expression.readEmptyGroup ((group.accept? (.keyword .whereKw)).getD group) =
      .ok group.advance.advance := by
    rw [accept?_other atGroup (by simp), Option.getD_none, Expression.readEmptyGroup]
    simp only [expect_of_map _ atGroup, bind, Except.bind, accept?_of_map atClose]
  simp only [ofTokens, prologue, bind, Except.bind, expect_of_map _ atSelect, modifier, projection, empty, slices, data,
    atEnd, ↓reduceIte]
  rfl

end Reading

/-- What an inline expression means: all of its text is read as that, and the text does not end in a comment. -/
structure Means (q : Template) (expression : List Char) (e : Expression) : Prop where
  closed : endsInComment expression = false
  reads : ∃ tokens rest, tokenize (String.ofList expression) = .ok tokens ∧
    Expression.read q.scope tokens = .ok (e, rest) ∧ rest.kind = .eof

theorem Headed.ofText_inlineQuery (headed : q.Headed) (valid : ∀ name ∈ q.names, isVarName name.toList = true)
    {rows : List Row} (tabular : Tabular q.names.length rows) {expression : List Char} {e : Expression}
    (means : q.Means expression e) (unbraced : '\x7d' ∉ expression) :
    Query.ofText (String.ofList (q.inlineQuery rows expression)) = .ok (q.inlined rows e) := by
  obtain ⟨closed, tokens, rest, scanned, read, whole⟩ := means
  have readable := fun row among => (tabular row among).2
  have lexes := exists_tokenize_iff.mp ⟨tokens, scanned, rfl⟩
  rw [String.toList_ofList] at lexes
  obtain ⟨used, short, inner⟩ := lexes.ends
  rw [short] at lexes
  have spaced := Expression.spaced_of_read inner short read whole
  have text := headed.lexes_inlineQuery valid readable lexes spaced unbraced closed
  rw [← String.toList_ofList (l := q.inlineQuery rows expression)] at text
  obtain ⟨all, scannedAll, kinds⟩ := exists_tokenize_iff.mpr text
  rw [Query.ofText, scannedAll]
  exact ofTokens_inlined inner short read whole readable (fun row among => (tabular row among).1) kinds

/-! ## Its result -/

section Running

variable {rows : List Row} {supplied : Parameters} {e : Expression} {now : DateTime}

theorem solutions_inlined (resolved : q.rows supplied = .ok rows) :
    (q.inlined rows e).solutions = rows.map fun row => rowSolution q.names (row.map cellBack) := by
  unfold Query.solutions inlined
  by_cases bare : q.bindings = []
  · have single : rows = [[]] := by
      rw [Template.rows, bare] at resolved
      exact (Except.ok.inj resolved).symm
    simp [bare, single, Template.names, rowSolution]
  · have filled : ¬ q.bindings.isEmpty = true := by simpa using bare
    simp only [if_neg filled, List.map_map]
    rfl

def computed (q : Template) (now : DateTime) (e : Expression) (row : Row) (next : Nat) : Option (Option Term × Nat) :=
  computeTerm ⟨rowSolution q.names row, now, some q.systemId⟩ e next

/-- The supply after the values in all of some rows, if there are such. -/
def supplied? (q : Template) (now : DateTime) (e : Expression) (part : List Row) (next : Nat) : Option Nat :=
  part.foldlM (fun next row => (q.computed now e row next).map Prod.snd) next

theorem projectRow_inlined (row : Row) (next : Nat) :
    (q.inlined rows e).projectRow now (rowSolution q.names (row.map cellBack)) next =
      (q.computed now e row next).map fun (cell, next) => (cell.elim [] (Solution.insert [] valueName), next) := by
  have same : computeTerm ⟨rowSolution q.names (row.map cellBack), now, some q.systemId⟩ e next =
      q.computed now e row next := by
    simp only [computed, computeTerm, Expression.eval_congr (rowSolution_alike q.names row)]
  simp only [projectRow, inlined, projectFrom, scope, same]
  rcases q.computed now e row next with _ | ⟨_ | t, after⟩ <;> rfl

/-- The rows of the result are those of the values, one by one, and the first one holds the first value. -/
theorem projectAll_inlined (part : List Row) (next : Nat) :
    match q.supplied? now e part next with
    | none => (q.inlined rows e).projectAll now next (part.map fun row => rowSolution q.names (row.map cellBack)) = none
    | some later => ∃ results,
      (q.inlined rows e).projectAll now next (part.map fun row => rowSolution q.names (row.map cellBack)) =
        some (results, later) ∧
      results.head?.bind (·.get? valueName) =
        part.head?.bind fun row => (q.computed now e row next).bind Prod.fst := by
  induction part generalizing next with
  | nil => exact ⟨[], rfl, rfl⟩
  | cons row part ih =>
    simp only [supplied?, List.map_cons, projectAll, projectRow_inlined, List.foldlM_cons, List.head?_cons,
      Option.bind_some]
    rcases q.computed now e row next with _ | ⟨cell, between⟩
    · rfl
    · have rest := ih between
      simp only [supplied?] at rest
      simp only [Option.map_some, Option.bind_eq_bind, Option.bind_some]
      generalize (List.foldlM _ between part : Option Nat) = later at rest ⊢
      cases later with
      | none => simp only [rest, Option.bind_none]
      | some later =>
        obtain ⟨results, projected, -⟩ := rest
        refine ⟨_, by rw [projected]; rfl, ?_⟩
        cases cell with
        | none => rfl
        | some t => simp [Solution.get?_insert]

theorem inlineValue_of_ofText (resolved : q.rows supplied = .ok rows) {row : Row} (first : rows.head? = some row)
    {expression : List Char}
    (asked : Query.ofText (String.ofList (q.inlineQuery rows expression)) = .ok (q.inlined rows e)) (next : Nat) :
    q.inlineValue now rows expression next =
      match q.supplied? now e rows next, q.computed now e row next with
      | some later, some (some t, _) => .ok (t.writtenChars, later)
      | some _, some (none, _) => .error (.missingValue (String.ofList expression))
      | _, _ => .error .overflow := by
  have all := @projectAll_inlined q rows e now rows next
  rw [← solutions_inlined resolved, first, Option.bind_some] at all
  unfold inlineValue
  rw [asked]
  dsimp only
  unfold Query.run
  cases later : q.supplied? now e rows next with
  | none =>
    rw [later] at all
    rw [show (q.inlined rows e).projectAll now next (q.inlined rows e).solutions = none from all]
    rfl
  | some later' =>
    rw [later] at all
    obtain ⟨results, projected, value⟩ := all
    rw [projected]
    have cut : Results.first? ⟨(q.inlined rows e).columnNames, (q.inlined rows e).pick results⟩ valueName =
        (q.computed now e row next).bind Prod.fst := by
      have one : (q.inlined rows e).pick results = results.take 1 := rfl
      rw [Results.first?, one, List.head?_take, if_neg (by decide), value]
    simp only [Option.bind_eq_bind, Option.bind_some, Option.pure_def, cut]
    rcases outcome : q.computed now e row next with _ | ⟨_ | t, between⟩
    · -- The first row is one of those that were gone through.
      obtain ⟨others, rfl⟩ : ∃ others, rows = row :: others := by
        cases rows with
        | nil => cases first
        | cons _ others => exact ⟨others, by rw [Option.some_inj.mp first]⟩
      rw [supplied?, List.foldlM_cons, outcome] at later
      cases later
    · rfl
    · rfl

theorem fill_of_splitInline? {body before expression after : List Char}
    (found : splitInline? body = some (before, expression, after)) (next : Nat) :
    q.fill now rows body next = (q.inlineValue now rows expression next).bind fun (value, next) =>
      (q.fill now rows after next).map (before ++ value ++ ·) := by
  rw [fill]
  split
  · next none => rw [none] at found; cases found
  · next same =>
    rw [same] at found
    cases found
    rfl

end Running

/-- Preparing goes through the text from one inline expression to the next. Each gives way to its value in the first row
of values, and where it has none there the text cannot be prepared. The query that is written for it does not show, as
long as the namespaces can be written as they are, except that it asks for the values in all rows: if one of them has no
outcome or no term, there is no text either. -/
theorem prepare_eval {text systemId : String} (read : ofText text systemId = .ok q)
    (located : Iri.isAbsolute systemId = true) (plain : systemId.toList.all isIriChar = true)
    (verbatim : ∀ declared ∈ q.namespaces, Iri.isVerbatim declared.2 = true) {supplied : Parameters} {rows : List Row}
    (resolved : q.rows supplied = .ok rows)
    (absolute : ∀ row ∈ rows, ∀ cell ∈ row, ∀ t ∈ cell, ∀ i ∈ t.iris, Iri.isAbsolute i = true) (now : DateTime) :
    let value (e : Expression) (row : Row) (next : Nat) : Option (Option Term × Nat) :=
      match (e.eval ⟨rowSolution q.names row, now, some systemId⟩) ⟨next, []⟩ with
      | some (.ok v, draws) => v.toTerm.map fun t => (some t, draws.next)
      | some (.error _, draws) => some (none, draws.next)
      | none => none
    (∀ next, q.prepare now next supplied =
      (q.fill now rows q.text.toList next).map fun text => String.ofList (text ++ q.tableChars rows)) ∧
    ∃ row others, rows = row :: others ∧
      ∀ body before expression after e next, splitInline? body = some (before, expression, after) →
        q.Means expression e →
        q.fill now rows body next =
          match rows.foldlM (fun next row => (value e row next).map Prod.snd) next, value e row next with
          | some later, some (some t, _) => (q.fill now rows after later).map (before ++ t.writtenChars ++ ·)
          | some _, some (none, _) => .error (.missingValue (String.ofList expression))
          | _, _ => .error .overflow := by
  intro value
  have names := ofText_names read
  obtain ⟨rfl, formed⟩ := ofText_formed read
  have headed : q.Headed := ⟨located, Iri.isVerbatim_of_isAbsolute located plain, ofText_labels read, verbatim⟩
  have samples := fun binding inside => (formed binding inside).2
  obtain ⟨nonempty, cells⟩ := rows_cells samples (fun name text t => resolve?_drawn samples) resolved
  have tabular : Tabular q.names.length rows := by
    refine fun row among => ⟨(cells row among).1, fun cell inside t same => ?_⟩
    obtain ⟨spelt, canonical⟩ := (cells row among).2 cell inside t same
    exact ⟨⟨spelt, absolute row among cell inside t same⟩, canonical⟩
  refine ⟨prepare_of_rows resolved, ?_⟩
  obtain ⟨row, others, rfl⟩ := List.exists_cons_of_ne_nil nonempty
  refine ⟨row, others, rfl, fun body before expression after e next found means => ?_⟩
  have asked := headed.ofText_inlineQuery names tabular means (unbraced_of_splitInline? found)
  have same : ∀ row next, q.computed now e row next = value e row next := fun _ _ => rfl
  rw [fill_of_splitInline? found, inlineValue_of_ofText resolved rfl asked]
  simp only [supplied?, same]
  generalize (List.foldlM _ next (row :: others) : Option Nat) = later
  rcases later with _ | later
  · rfl
  · rcases value e row next with _ | ⟨_ | t, between⟩ <;> rfl

def tally : Template :=
  { text := "PREFIX n: <ns/> ASK \x7b ?s n:count $\x7b?x + 1\x7d \x7d"
    systemId := "http://h/"
    namespaces := [("n", "ns/")]
    bindings := [("x", some (.typed "1" Vocabulary.xsdInteger))] }

/-- The count is one more than what was supplied. With a blank in the namespace the query for it cannot be read, though
the expression has no use for the namespace. -/
theorem prepare_eval_tally :
    let now : DateTime := ⟨⟨1970, 1, 1, by decide⟩, ⟨0, 0, 0, 0, by decide⟩, none⟩
    tally.prepare now 0 [("x", ["007"])] =
      .ok "PREFIX n: <ns/> ASK \x7b ?s n:count 8 \x7d\nBINDINGS $x \x7b\n\t(7 )\n\x7d\n" ∧
    (ofText "PREFIX n: <http://h/\\u0020> ASK \x7b ?s n:count $\x7b?x + 1\x7d \x7d" "http://h/").map
      (fun q => q.prepare now 0 []) =
        .ok (.error (.read (.parse 27 (.expected "IRI after PREFIX" (.punct .lt))))) := by
  intro now
  have read : ofText "PREFIX n: <ns/> ASK \x7b ?s n:count $\x7b?x + 1\x7d \x7d BINDINGS $x \x7b(1)\x7d" "http://h/" =
    .ok tally := by decide +kernel
  have resolved : tally.rows [("x", ["007"])] = .ok [[some (.typed "007" Vocabulary.xsdInteger)]] := by
    decide +kernel
  obtain ⟨prepared, row, others, first, step⟩ :=
    prepare_eval read (by decide) (by decide) (by decide) resolved (by decide) now
  cases first
  have found : splitInline? tally.text.toList =
      some ("PREFIX n: <ns/> ASK \x7b ?s n:count ".toList, "?x + 1".toList, " \x7d".toList) := by decide
  have scanned : tokenize (String.ofList "?x + 1".toList) =
      .ok [⟨.var "x", 0, 2⟩, ⟨.punct .plus, 3, 4⟩, ⟨.integer "1", 5, 6⟩, ⟨.eof, 6, 6⟩] := by decide +kernel
  refine ⟨?_, by decide +kernel⟩
  rw [prepared, step _ _ _ _ _ 0 found ⟨by decide +kernel, _, _, scanned, rfl, rfl⟩]
  show Except.map _ ((tally.fill now _ " \x7d".toList 0).map _) = _
  rw [fill_of_plain (by decide)]
  rfl

end TemplateQuery.Template
