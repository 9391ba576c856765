import TemplateQuery.Proofs.Query.Inline
import TemplateQuery.Proofs.Template.Product
import TemplateQuery.Template.Reader

/-! The table of values behind a prepared query. Whatever texts are supplied, the table is read as the declared names
and exactly the rows of resolved terms, so that no text reaches outside its own cell. -/

set_option autoImplicit false

namespace TemplateQuery.Template

open Token Query

/-! ## The cells of the rows -/

/-- Where references and samples are absolute, and names and samples are such as tokens can have. -/
structure Grounded (q : Template) : Prop where
  located : Iri.isAbsolute q.systemId = true
  namespaces : ∀ declared ∈ q.namespaces, Iri.isAbsolute declared.2 = true
  names : ∀ name ∈ q.names, isVarName name.toList = true
  samples : ∀ binding ∈ q.bindings, Cell.Readable binding.2

variable {q : Template}

theorem Grounded.prologue (grounded : q.Grounded) : q.prologue.Absolute := by
  have named := Iri.ne_empty_of_isAbsolute grounded.located
  exact ⟨⟨q.systemId, by simp [Template.prologue, named], grounded.located⟩, grounded.namespaces⟩

theorem mem_of_sample? {name : String} {t : Term} (found : q.sample? name = some t) :
    (name, some t) ∈ q.bindings := by
  unfold Template.sample? at found
  obtain ⟨before, after, whole, -⟩ := List.lookup_eq_some_iff.mp (Option.join_eq_some_iff.mp found)
  simp [whole]

theorem Grounded.sample? (grounded : q.Grounded) {name : String} {t : Term} (found : q.sample? name = some t) :
    t.Readable :=
  (grounded.samples (name, some t) (mem_of_sample? found) t rfl).1

theorem Grounded.drawn (grounded : q.Grounded) : ∀ binding ∈ q.bindings, Drawn binding.2 := by
  intro binding member t found
  obtain ⟨readable, canonical⟩ := grounded.samples binding member t found
  exact ⟨readable.1, canonical⟩

/-- A supplied text becomes a literal with the tag of the sample, an IRI found from where the query was, or the term
that it writes. -/
theorem resolve?_cases {name text : String} {t : Term} (found : q.resolve? name text = some t) :
    (∃ lexical tag, q.sample? name = some (.literal lexical tag) ∧ t = .literal text tag) ∨
      t = .iri (Iri.resolve q.systemId text) ∨ Term.ofWritten? q.prologue text = some t := by
  unfold Template.resolve? at found
  split at found
  · next lexical tag sample => cases found; exact .inl ⟨lexical, tag, sample, rfl⟩
  · cases found; exact .inr (.inl rfl)
  · cases found; exact .inr (.inl rfl)
  · cases found; exact .inr (.inl rfl)
  · exact .inr (.inr found)

theorem resolve?_drawn (samples : ∀ binding ∈ q.bindings, Drawn binding.2) {name text : String} {t : Term}
    (found : q.resolve? name text = some t) : Drawn (some t) := by
  rintro u ⟨⟩
  rcases resolve?_cases found with ⟨lexical, tag, sample, rfl⟩ | rfl | written
  · have spelt := (samples _ (mem_of_sample? sample) _ rfl).1
    exact ⟨by cases tag <;> exact spelt, rfl⟩
  · exact ⟨trivial, rfl⟩
  · obtain ⟨ts, rest, drawn⟩ := Term.drawn_of_ofWritten? written
    exact ⟨drawn.spelt, drawn.canonical⟩

theorem Grounded.resolve? (grounded : q.Grounded) {name text : String} {t : Term}
    (found : q.resolve? name text = some t) : t.Readable ∧ t.canonical = t := by
  obtain ⟨spelt, canonical⟩ := resolve?_drawn grounded.drawn found t rfl
  refine ⟨⟨spelt, ?_⟩, canonical⟩
  rcases resolve?_cases found with ⟨lexical, tag, sample, rfl⟩ | rfl | written
  · -- The text is free, but the tag is the sample's, and only the tag is asked for.
    have absolute := (grounded.sample? sample).2
    cases tag <;> exact absolute
  · simpa [Term.iris] using Iri.isAbsolute_resolve grounded.located text
  · obtain ⟨ts, rest, drawn⟩ := Term.drawn_of_ofWritten? written
    exact drawn.absolute grounded.prologue

theorem mem_extend {rows : List Row} {cells : List (Option Term)} {row : Row} (member : row ∈ extend rows cells) :
    ∃ shorter ∈ rows, ∃ cell ∈ cells, row = shorter ++ [cell] := by
  simp only [extend, List.mem_flatMap, List.mem_map] at member
  obtain ⟨cell, inside, shorter, among, same⟩ := member
  exact ⟨shorter, among, cell, inside, same.symm⟩

section Cells

variable {P : Option Term → Prop} {supplied : Parameters}

theorem product_cells {columns : List (List (Option Term))}
    (each : ∀ column ∈ columns, column ≠ [] ∧ ∀ cell ∈ column, P cell) :
    product columns ≠ [] ∧ ∀ row ∈ product columns, row.length = columns.length ∧ ∀ cell ∈ row, P cell := by
  induction columns using List.reverseRecOn with
  | nil => simp [product]
  | append_singleton columns last ih =>
    obtain ⟨shorter, longer⟩ := List.forall_mem_append.mp each
    obtain ⟨nonempty, formed⟩ := ih shorter
    obtain ⟨someCells, hold⟩ := longer last (List.mem_singleton_self last)
    rw [product_append_singleton]
    constructor
    · obtain ⟨cell, inside⟩ := List.exists_mem_of_ne_nil last someCells
      simpa [extend] using ⟨⟨cell, inside⟩, nonempty⟩
    · intro row member
      obtain ⟨front, among, cell, inside, rfl⟩ := mem_extend member
      obtain ⟨length, cells⟩ := formed front among
      refine ⟨by simp [length], List.forall_mem_append.mpr ⟨cells, ?_⟩⟩
      simpa using hold cell inside

theorem values_cells (resolved : ∀ name text t, q.resolve? name text = some t → P (some t))
    {binding : String × Option Term} (own : P binding.2) (readable : q.unreadableFor? supplied binding.1 = none) :
    q.values supplied binding ≠ [] ∧ ∀ cell ∈ q.values supplied binding, P cell := by
  unfold values
  split
  · exact ⟨by simp, by simpa using own⟩
  · next given =>
    refine ⟨by simpa using given, fun cell member => ?_⟩
    obtain ⟨text, inside, rfl⟩ := List.mem_map.mp member
    cases found : q.resolve? binding.1 text with
    | none => exact absurd (by simp [found]) (List.find?_eq_none.mp readable text inside)
    | some t => exact resolved binding.1 text t found

theorem rows_cells (samples : ∀ binding ∈ q.bindings, P binding.2)
    (resolved : ∀ name text t, q.resolve? name text = some t → P (some t)) {rows : List Row}
    (ran : q.rows supplied = .ok rows) :
    rows ≠ [] ∧ ∀ row ∈ rows, row.length = q.names.length ∧ ∀ cell ∈ row, P cell := by
  rw [rows_eq] at ran
  split at ran
  · cases ran
  · next readable =>
    cases ran
    have columns : ∀ column ∈ q.bindings.map (q.values supplied), column ≠ [] ∧ ∀ cell ∈ column, P cell := by
      intro column member
      obtain ⟨binding, inside, rfl⟩ := List.mem_map.mp member
      have unread := List.findSome?_eq_none_iff.mp readable binding.1 (List.mem_map_of_mem inside)
      exact values_cells resolved (samples binding inside) unread
    simpa [names] using product_cells columns

end Cells

def Tabular (width : Nat) (rows : List Row) : Prop :=
  ∀ row ∈ rows, row.length = width ∧ ∀ cell ∈ row, Cell.Readable cell

theorem Grounded.rows (grounded : q.Grounded) {supplied : Parameters} {rows : List Row}
    (ran : q.rows supplied = .ok rows) : Tabular q.names.length rows := by
  have resolved : ∀ name text t, q.resolve? name text = some t → Cell.Readable (some t) := by
    rintro name text t found u ⟨⟩
    exact grounded.resolve? found
  exact (rows_cells grounded.samples resolved ran).2

/-! ## The text of the table -/

theorem lexes_cells {row : Row} {tail : List Char} {kinds : List Kind} (readable : ∀ cell ∈ row, Cell.Readable cell)
    (later : Lexes tail kinds) : Lexes (row.flatMap cellChars ++ tail) (row.flatMap cellKinds ++ kinds) := by
  induction row with
  | nil => exact later
  | cons cell row ih =>
    have rest : Lexes (' ' :: (row.flatMap cellChars ++ tail)) (row.flatMap cellKinds ++ kinds) :=
      .space rfl (ih fun c member => readable c (List.mem_cons_of_mem cell member))
    have stop : Stop (' ' :: (row.flatMap cellChars ++ tail)) := by simp [Stop]
    simp only [List.flatMap_cons, List.append_assoc]
    cases cell with
    | none =>
      have undef : Lexes ("UNDEF".toList ++ _) (.keyword .undef :: _) :=
        lexes_keyword (by decide) (by decide) (by decide) stop rest
      simpa [cellChars, cellKinds] using undef
    | some t =>
      have term := Term.lexes_written (readable (some t) List.mem_cons_self t rfl).1 stop rest
      simpa [cellChars, cellKinds] using term

theorem lexes_rows {rows : List Row} {tail : List Char} {kinds : List Kind}
    (readable : ∀ row ∈ rows, ∀ cell ∈ row, Cell.Readable cell) (later : Lexes tail kinds) :
    Lexes (rows.flatMap rowChars ++ tail) (rows.flatMap rowKinds ++ kinds) := by
  induction rows with
  | nil => exact later
  | cons row rows ih =>
    have rest : Lexes ('\n' :: (rows.flatMap rowChars ++ tail)) (rows.flatMap rowKinds ++ kinds) :=
      .space rfl (ih fun r member => readable r (List.mem_cons_of_mem row member))
    have close : Lexes (')' :: '\n' :: (rows.flatMap rowChars ++ tail))
        (.punct .rparen :: (rows.flatMap rowKinds ++ kinds)) :=
      .cons (by decide) (scanOne?_mark _ rfl (by decide)) rest
    have cells := lexes_cells (readable row List.mem_cons_self) close
    have whole : Lexes ('\t' :: '(' :: _) (.punct .lparen :: _) :=
      .space rfl (.cons (by decide) (scanOne?_mark _ rfl (by decide)) cells)
    simpa [rowChars, rowKinds] using whole

theorem lexes_names {names : List String} {tail : List Char} {kinds : List Kind}
    (valid : ∀ name ∈ names, isVarName name.toList = true) (stop : Stop tail) (later : Lexes tail kinds) :
    Stop (names.flatMap (fun name => ' ' :: '$' :: name.toList) ++ tail) ∧
    Lexes (names.flatMap (fun name => ' ' :: '$' :: name.toList) ++ tail) (names.map Kind.var ++ kinds) := by
  induction names with
  | nil => exact ⟨stop, later⟩
  | cons name names ih =>
    obtain ⟨stops, lexes⟩ := ih fun n member => valid n (List.mem_cons_of_mem name member)
    have scanned := scanOne?_var (.inl rfl) (valid name List.mem_cons_self) stops
    rw [String.ofList_toList] at scanned
    have whole : Lexes (' ' :: ('$' :: name.toList ++ _)) (.var name :: _) :=
      .space rfl (.cons (by decide) scanned lexes)
    refine ⟨by simp [Stop], ?_⟩
    simpa using whole

theorem lexes_table (valid : ∀ name ∈ q.names, isVarName name.toList = true) (declared : q.bindings ≠ [])
    {rows : List Row} (readable : ∀ row ∈ rows, ∀ cell ∈ row, Cell.Readable cell) :
    Lexes (q.tableChars rows) (tableKinds q.names rows) := by
  have close : Lexes ('\x7d' :: ['\n']) [.punct .rbrace, .eof] :=
    .cons (by decide) (scanOne?_mark _ rfl (by decide)) (.done rfl)
  have body := lexes_rows readable close
  have opened : Lexes (' ' :: '\x7b' :: '\n' :: _) (.punct .lbrace :: _) :=
    .space rfl (.cons (by decide) (scanOne?_mark _ rfl (by decide)) (.space rfl body))
  obtain ⟨stop, names⟩ := lexes_names valid (by simp [Stop]) opened
  have whole : Lexes ('\n' :: ("BINDINGS".toList ++ _)) (.keyword .bindings :: _) :=
    .space rfl (lexes_keyword (by decide) (by decide) (by decide) stop names)
  have some : q.bindings.isEmpty = false := by simpa using declared
  simpa [tableChars, some, tableKinds, rowsKinds] using whole

/-! ## Prepared text -/

theorem fill_of_plain {now : DateTime} {rows : List Row} {text : List Char} {next : Nat}
    (plain : Text.contains opening text = false) : q.fill now rows text next = .ok text := by
  have uncut : splitInline? text = none := by
    have absent : Text.splitFirst? opening text = none := by simpa [Text.contains] using plain
    simp [splitInline?, absent]
  rw [fill]
  split
  · rfl
  · next found => rw [uncut] at found; cases found

theorem prepare_of_rows {rows : List Row} {supplied : Parameters} (resolved : q.rows supplied = .ok rows)
    {now : DateTime} (next : Nat) :
    q.prepare now next supplied =
      (q.fill now rows q.text.toList next).map fun text => String.ofList (text ++ q.tableChars rows) := by
  rw [prepare, resolved]
  rfl

theorem prepare_of_plain (plain : Text.contains opening q.text.toList = false) {rows : List Row} {supplied : Parameters}
    (resolved : q.rows supplied = .ok rows) (now : DateTime) (next : Nat) :
    q.prepare now next supplied = .ok (q.text ++ String.ofList (q.tableChars rows)) := by
  rw [prepare_of_rows resolved, fill_of_plain plain, Except.map, String.ofList_append, String.ofList_toList]

/-! ## The template of a text -/

theorem lastTable?_split {depth : Nat} {ts table : Tokens} (found : lastTable? depth ts = some table) :
    ∃ front t later, ts = front ++ t :: later ∧ table = t :: later ∧ startsTable t.kind = true ∧
      (front.map Token.kind).foldl depthAfter depth = 0 := by
  induction ts generalizing depth with
  | nil => cases found
  | cons u ts ih =>
    rw [lastTable?] at found
    rcases Option.or_eq_some_iff.mp found with later | ⟨-, here⟩
    · obtain ⟨front, t, others, rfl, rfl, starts, level⟩ := ih later
      exact ⟨u :: front, t, others, rfl, rfl, starts, level⟩
    · split at here
      · next outside =>
        cases here
        obtain ⟨level, starts⟩ : depth = 0 ∧ startsTable u.kind = true := by simpa using outside
        exact ⟨[], u, ts, rfl, rfl, starts, level⟩
      · cases here

/-- What a template is read from: the tokens, the declarations in front and, where there are parameters, the last
table. -/
theorem ofText_ok {text systemId : String} (read : ofText text systemId = .ok q) :
    ∃ tokens p body, tokenize text = .ok tokens ∧ readPrologue {} tokens.length tokens = .ok (p, body) ∧
      q.systemId = systemId ∧ q.namespaces = p.namespaces ∧
      (q.bindings = [] ∨ ∃ table data rest, lastTable? 0 tokens = some table ∧ readInline p table = .ok (data, rest) ∧
        q.text = String.ofList (Text.trimEnd (Text.takeBytes table.offset text.toList)) ∧
        q.bindings = (data.map samples).getD []) := by
  unfold ofText at read
  obtain ⟨tokens, scanned, read⟩ := ok_of_bind read
  obtain ⟨⟨p, body⟩, prologue, read⟩ := ok_of_bind read
  refine ⟨tokens, p, body, scanned, prologue, ?_⟩
  dsimp only at read
  split at read
  · cases read; exact ⟨rfl, rfl, .inl rfl⟩
  · next table found =>
    obtain ⟨⟨data, rest⟩, inline, read⟩ := ok_of_bind read
    dsimp only at read
    split at read
    · cases read
    · cases read; exact ⟨rfl, rfl, .inr ⟨table, data, rest, found, inline, rfl, rfl⟩⟩

theorem samples_formed {data : Inline} (names : ∀ name ∈ data.names, isVarName name.toList = true)
    (cells : ∀ row ∈ data.rows, ∀ cell ∈ row, Drawn cell) :
    ∀ binding ∈ samples data, isVarName binding.1.toList = true ∧ Drawn binding.2 := by
  intro binding member
  obtain ⟨i, inside, same⟩ := List.mem_mapIdx.mp member
  subst same
  refine ⟨names _ (List.getElem_mem inside), ?_⟩
  intro t found
  have atIndex : (data.rows.headD [])[i]? = some (some t) := Option.join_eq_some_iff.mp found
  cases first : data.rows with
  | nil => simp [first] at atIndex
  | cons row rows =>
    rw [first, List.headD_cons] at atIndex
    exact cells row (by simp [first]) (some t) (List.mem_of_getElem? atIndex) t rfl

theorem ofText_formed {text systemId : String} (read : ofText text systemId = .ok q) :
    q.systemId = systemId ∧ ∀ binding ∈ q.bindings, isVarName binding.1.toList = true ∧ Drawn binding.2 := by
  obtain ⟨tokens, p, body, scanned, -, placed, -, bare | ⟨table, data, rest, found, inline, -, same⟩⟩ := ofText_ok read
  · exact ⟨placed, by simp [bare]⟩
  · refine ⟨placed, ?_⟩
    rw [same]
    cases data with
    | none => simp
    | some data =>
      obtain ⟨front, t, later, rfl, rfl, -⟩ := lastTable?_split found
      have formed := fun u member => wellFormed_of_tokenize scanned u (List.mem_append_right front member)
      obtain ⟨names, cells⟩ := readInline_formed formed inline
      exact samples_formed names cells

theorem ofText_names {text systemId : String} (read : ofText text systemId = .ok q) :
    ∀ name ∈ q.names, isVarName name.toList = true := by
  intro name member
  obtain ⟨binding, inside, rfl⟩ := List.mem_map.mp member
  exact ((ofText_formed read).2 binding inside).1

theorem grounded_of_ofText {text systemId : String} (read : ofText text systemId = .ok q)
    (located : Iri.isAbsolute systemId = true)
    (namespaces : ∀ declared ∈ q.namespaces, Iri.isAbsolute declared.2 = true)
    (absolute : ∀ binding ∈ q.bindings, ∀ t ∈ binding.2, ∀ i ∈ t.iris, Iri.isAbsolute i = true) : q.Grounded := by
  have names := ofText_names read
  obtain ⟨rfl, formed⟩ := ofText_formed read
  refine ⟨located, namespaces, names, fun binding inside t found => ?_⟩
  obtain ⟨spelt, canonical⟩ := (formed binding inside).2 t found
  exact ⟨⟨spelt, absolute binding inside t found⟩, canonical⟩

/-- The text of a prepared query is the template's and a table that is read as the declared names and the rows of
resolved terms, each cell in its own place, whatever texts were supplied. -/
theorem table_reads_back {text systemId : String} (read : ofText text systemId = .ok q) (declared : q.bindings ≠ [])
    (located : Iri.isAbsolute systemId = true)
    (namespaces : ∀ declared ∈ q.namespaces, Iri.isAbsolute declared.2 = true)
    (absolute : ∀ binding ∈ q.bindings, ∀ t ∈ binding.2, ∀ i ∈ t.iris, Iri.isAbsolute i = true)
    (plain : Text.contains opening q.text.toList = false) {now : DateTime} {next : Nat} {supplied : Parameters}
    {out : String} (prepared : q.prepare now next supplied = .ok out) :
    ∃ rows tokens, q.rows supplied = .ok rows ∧ out = q.text ++ String.ofList (q.tableChars rows) ∧
      tokenize (String.ofList (q.tableChars rows)) = .ok tokens ∧
      ∀ p, ∃ rest, Query.readInline p tokens =
        .ok (some ⟨q.names, rows.map (·.map (·.map Term.withCanonicalInteger))⟩, rest) ∧ rest.kind = .eof := by
  have grounded := grounded_of_ofText read located namespaces absolute
  cases resolved : q.rows supplied with
  | error fault => rw [prepare, resolved] at prepared; cases prepared
  | ok rows =>
    have formed := grounded.rows resolved
    have readable := fun row member => (formed row member).2
    have lexes := lexes_table grounded.names declared readable
    rw [← String.toList_ofList (l := q.tableChars rows)] at lexes
    obtain ⟨tokens, scanned, kinds⟩ := exists_tokenize_iff.mpr lexes
    rw [prepare_of_plain plain resolved] at prepared
    cases prepared
    refine ⟨rows, tokens, rfl, rfl, scanned, fun p => ?_⟩
    exact readInline_of_map readable (fun row member => (formed row member).1) kinds

def greeting : Template :=
  { text := "ASK \x7b\x7d", systemId := "a:b", bindings := [("x", some (.plain "hello"))] }

/-- A quote, a closing parenthesis and a closing brace stay inside their cell. -/
theorem table_reads_back_greeting :
    ∃ tokens rest, tokenize (String.ofList (greeting.tableChars [[some (.plain "\") \x7d")]])) = .ok tokens ∧
      Query.readInline {} tokens = .ok (some ⟨["x"], [[some (.plain "\") \x7d")]]⟩, rest) ∧ rest.kind = .eof := by
  have read : ofText "ASK \x7b\x7d BINDINGS $x \x7b(\"hello\")\x7d" "a:b" = .ok greeting := by decide +kernel
  have resolved : greeting.rows [("x", ["\") \x7d"])] = .ok [[some (.plain "\") \x7d")]] := by decide +kernel
  have plain : Text.contains opening greeting.text.toList = false := by decide
  let now : DateTime := ⟨⟨1970, 1, 1, by decide⟩, ⟨0, 0, 0, 0, by decide⟩, none⟩
  have prepared := prepare_of_plain plain resolved now 0
  obtain ⟨rows, tokens, same, -, scanned, back⟩ :=
    table_reads_back read (by decide) (by decide) (by decide) (by decide) (by decide) prepared
  rw [resolved] at same
  cases same
  obtain ⟨rest, ran, atEnd⟩ := back {}
  exact ⟨tokens, rest, scanned, ran, atEnd⟩

end TemplateQuery.Template
