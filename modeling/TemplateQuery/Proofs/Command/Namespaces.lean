import Mathlib.Data.Set.List
import TemplateQuery.Command
import TemplateQuery.Proofs.Event.Rebased
import TemplateQuery.Proofs.Toml.Keys

/-! Namespaces of a compiled template. Those of the settings fill the gaps that the document leaves: they are declared
ahead of its own, under labels that it does not declare anywhere, and add nothing else to the query. -/

set_option autoImplicit false

namespace TemplateQuery

/-! ## Declarations -/

namespace Event

def document (body : List Event) : List Event := [.startDocument] ++ body ++ [.endDocument]

theorem document_append (front body : List Event) :
    document (front ++ body) = Event.startDocument :: (front ++ (body ++ [Event.endDocument])) := by
  simp [document]

def declared (events : List Event) : List (String × String) :=
  events.filterMap fun
    | .declare label iri => some (label, iri)
    | _ => none

def declaring (pairs : List (String × String)) : List Event := pairs.map fun (label, iri) => .declare label iri

theorem declared_append (front back : List Event) : declared (front ++ back) = declared front ++ declared back :=
  List.filterMap_append

theorem declared_declaring (pairs : List (String × String)) : declared (declaring pairs) = pairs := by
  simp [declared, declaring, List.filterMap_map]

theorem declaring_append (front back : List (String × String)) :
    declaring (front ++ back) = declaring front ++ declaring back :=
  List.map_append

theorem declared_eq_nil {events : List Event} (none : ∀ e ∈ events, ∀ label iri, e ≠ .declare label iri) :
    declared events = [] := by
  rw [declared, List.filterMap_eq_nil_iff]
  intro e member
  cases e with
  | declare label iri => exact absurd rfl (none _ member label iri)
  | _ => rfl

end Event

open Event

theorem Ahead.declarations_document {body : List Event} (inner : ∀ e ∈ body, e ≠ .endDocument) :
    declarations (body ++ [Event.endDocument]) = declaring (declared body) := by
  induction body with
  | nil => rfl
  | cons e body ih =>
    rw [List.forall_mem_cons] at inner
    have later := ih inner.2
    unfold declarations at later ⊢
    rw [List.cons_append, List.takeWhile_cons_of_pos (by simpa using inner.1)]
    cases e with
    | declare label iri => rw [List.filter_cons_of_pos rfl, later]; rfl
    | _ => exact later

theorem Ahead.exists_bases (events : List Event) : ∃ iris : List String, bases events = iris.map .base := by
  have bases : bases events ∈ Set.range (List.map Event.base) := by
    rw [Set.range_list_map]
    intro e member
    obtain ⟨iri, rfl⟩ := base_of_mem_bases member
    exact ⟨iri, rfl⟩
  exact bases.imp fun _ same => same.symm

theorem Ahead.bases_declaring (pairs : List (String × String)) (events : List Event) :
    bases (declaring pairs ++ events) = bases events := by
  induction pairs with
  | nil => rfl
  | cons pair pairs ih => exact ih

theorem Ahead.declarations_declaring (pairs : List (String × String)) (events : List Event) :
    declarations (declaring pairs ++ events) = declaring pairs ++ declarations events := by
  induction pairs with
  | nil => rfl
  | cons pair pairs ih => exact congrArg _ ih

/-! ## The events that are compiled -/

namespace Settings

/-- The events that a template is compiled from: with the namespaces of the settings, and under another base if there
is one. -/
def stream (s : Settings) (base : Option String) (events : List Event) : List Event :=
  match base with
  | some iri => (BaseChange.onto iri).apply (s.complete events)
  | none => s.complete events

theorem queryText_eq (s : Settings) (layout : Layout) (base : Option String) (events : List Event) :
    s.queryText layout base events = (compile layout (s.stream base events)).map Event.queryText := by
  cases base <;> rfl

def filling (s : Settings) (events : List Event) : List (String × String) :=
  s.namespaces.filter fun pair => pair.1 ∉ (declared events).map Prod.fst

theorem declaredLabels_eq (events : List Event) : declaredLabels events = (declared events).map Prod.fst := by
  rw [declaredLabels, declared, List.map_filterMap]
  congr 1
  funext e
  cases e <;> rfl

theorem complete_document (s : Settings) (body : List Event) :
    s.complete (document body) = document (declaring (s.filling body) ++ body) := by
  have own : declared (document body) = declared body := by
    simp [declared, document]
  have extra : s.missingDeclarations (document body) = declaring (s.filling body) := by
    rw [missingDeclarations, declaredLabels_eq, own]
    simp [declaring, filling]
  rw [complete, extra, document_append]
  rfl

end Settings

/-! ## Under another base -/

namespace Event.BaseChange

theorem applyFrom_declaring (iri : String) (pairs : List (String × String)) (events : List Event) :
    (onto iri).applyFrom false (declaring pairs ++ events) = declaring pairs ++ (onto iri).applyFrom false events := by
  induction pairs with
  | nil => rfl
  | cons pair pairs ih => exact congrArg (List.cons _) ih

def announcement (iri : String) (based : Bool) (e : Event) : List Event :=
  if !based && announces e then [.base iri] else []

theorem announcement_plain (iri : String) (based : Bool) (e : Event) :
    (∀ d ∈ announcement iri based e, d ≠ .startDocument ∧ d ≠ .endDocument) ∧
      declared (announcement iri based e) = [] := by
  unfold announcement
  split <;> simp [declared]

theorem exists_applyFrom_document (iri : String) {body : List Event}
    (inner : ∀ e ∈ body, e ≠ .startDocument ∧ e ≠ .endDocument) (based : Bool) :
    ∃ body', (onto iri).applyFrom based (body ++ [Event.endDocument]) = body' ++ [Event.endDocument] ∧
      (∀ e ∈ body', e ≠ .startDocument ∧ e ≠ .endDocument) ∧ declared body' = declared body := by
  induction body generalizing based with
  | nil =>
    obtain ⟨plain, silent⟩ := announcement_plain iri based .endDocument
    exact ⟨_, applyFrom_onto_cons iri based .endDocument [], plain, silent⟩
  | cons e body ih =>
    rw [List.forall_mem_cons] at inner
    obtain ⟨plain, silent⟩ := announcement_plain iri based e
    obtain ⟨body', same, inner', declares⟩ := ih inner.2 (based || announces e || e.isBase)
    have own : rebased iri e ≠ .startDocument ∧ rebased iri e ≠ .endDocument ∧
        declared [rebased iri e] = declared [e] := by
      cases e with
      | startDocument => exact absurd rfl inner.1.1
      | endDocument => exact absurd rfl inner.1.2
      | _ => exact ⟨nofun, nofun, rfl⟩
    refine ⟨announcement iri based e ++ rebased iri e :: body', ?_, ?_, ?_⟩
    · rw [List.cons_append, applyFrom_onto_cons, same, List.append_assoc, List.cons_append]
      rfl
    · rw [List.forall_mem_append, List.forall_mem_cons]
      exact ⟨plain, ⟨own.1, own.2.1⟩, inner'⟩
    · rw [declared_append, silent, List.nil_append, ← List.singleton_append, declared_append, own.2.2, declares,
        ← declared_append, List.singleton_append]

end Event.BaseChange

theorem Settings.exists_stream (base : Option String) {body : List Event}
    (inner : ∀ e ∈ body, e ≠ .startDocument ∧ e ≠ .endDocument) :
    ∃ body', (∀ e ∈ body', e ≠ .startDocument ∧ e ≠ .endDocument) ∧ declared body' = declared body ∧
      ∀ s : Settings, s.stream base (document body) = document (declaring (s.filling body) ++ body') := by
  cases base with
  | none => exact ⟨body, inner, rfl, fun s => s.complete_document body⟩
  | some iri =>
    obtain ⟨body', same, inner', declares⟩ := BaseChange.exists_applyFrom_document iri inner false
    refine ⟨body', inner', declares, fun s => ?_⟩
    rw [stream, complete_document, document_append, document_append, BaseChange.apply, BaseChange.applyFrom_onto_cons,
      ← same, ← BaseChange.applyFrom_declaring]
    rfl

/-! ## The compilation -/

namespace Compilation

theorem ofSession_output (layout : Layout) (s : Session) (events : List Event) :
    ofSession layout { s with output := [] } events = ofSession layout s events := by
  cases events <;> rfl

theorem ofSession_declaring (layout : Layout) (s : Session) (pairs : List (String × String)) (events : List Event) :
    ofSession layout s (declaring pairs ++ events) = ofSession layout s events := by
  induction pairs with
  | nil => rfl
  | cons pair pairs ih =>
    rw [← ih, ← ofSession_output layout s (declaring pairs ++ events)]
    rfl

end Compilation

theorem Compile.declared_header (layout : Layout) : declared (header layout) = [] := by
  unfold header
  split <;> rfl

theorem Compile.declared_footer (layout : Layout) (origins : Origins) : declared (footer layout origins) = [] := by
  refine declared_eq_nil ?_
  rintro e member label iri rfl
  simpa using mem_footer member

theorem Compilation.declared_ofSession {layout : Layout} {body : List Event}
    (inner : ∀ e ∈ body, e ≠ .startDocument ∧ e ≠ .endDocument)
    (clean : (ofSession layout {} (body ++ [Event.endDocument])).violation = none) :
    declared (ofSession layout {} (body ++ [Event.endDocument])).events = [] := by
  obtain ⟨text, finished, same⟩ := finished_with_origins inner (inProgress_start layout _) clean
  have clauses : declared text = [] := by
    refine declared_eq_nil ?_
    rintro e member label iri rfl
    cases finished.clauses _ member
  rw [same, declared_append, declared_append, clauses, Compile.declared_footer]
  rfl

theorem Compile.output_startDocument (layout : Layout) {body : List Event} (inner : ∀ e ∈ body, e ≠ .endDocument)
    (pairs : List (String × String)) :
    (startDocument layout (declaring pairs ++ (body ++ [Event.endDocument])) {}).output =
      Event.startDocument :: Ahead.bases (body ++ [Event.endDocument]) ++ declaring (pairs ++ declared body) ++
        header layout := by
  rw [declaring_append, ← Ahead.declarations_document inner, ← Ahead.declarations_declaring,
    ← Ahead.bases_declaring pairs]
  rfl

theorem Compilation.ofEvents_declaring (layout : Layout) (pairs : List (String × String)) (events : List Event) :
    (ofEvents layout (Event.startDocument :: (declaring pairs ++ events))).violation =
        (ofSession layout {} events).violation ∧
      (ofEvents layout (Event.startDocument :: (declaring pairs ++ events))).events =
        (Compile.startDocument layout (declaring pairs ++ events) {}).output ++
          (ofSession layout {} events).events := by
  let opened := Compile.startDocument layout (declaring pairs ++ events) {}
  have passed : ofSession layout opened (declaring pairs ++ events) = ofSession layout {} events := by
    rw [ofSession_declaring, ← ofSession_output]
    rfl
  rw [← passed]
  exact ⟨rfl, events_ofSession_cons rfl⟩

theorem exists_compile_declaring (layout : Layout) {body : List Event}
    (inner : ∀ e ∈ body, e ≠ .startDocument ∧ e ≠ .endDocument) :
    ∃ outcome : Except Violation (List Event), (∀ rest, outcome = .ok rest → declared rest = []) ∧
      ∀ pairs, compile layout (document (declaring pairs ++ body)) = outcome.map fun rest =>
        Event.startDocument :: Ahead.bases (body ++ [Event.endDocument]) ++ declaring (pairs ++ declared body) ++
          rest := by
  have written := Compile.output_startDocument layout fun e member => (inner e member).2
  -- What follows the start is compiled from the session that declarations leave untouched.
  cases outcome : (Compilation.ofSession layout {} (body ++ [Event.endDocument])).violation with
  | some v =>
    refine ⟨.error v, nofun, fun pairs => ?_⟩
    rw [compile, document_append, (Compilation.ofEvents_declaring layout pairs _).1, outcome]
    rfl
  | none =>
    refine ⟨.ok (Compile.header layout ++ (Compilation.ofSession layout {} (body ++ [Event.endDocument])).events), ?_,
      fun pairs => ?_⟩
    · rintro rest ⟨⟩
      rw [declared_append, Compile.declared_header, Compilation.declared_ofSession inner outcome]
      rfl
    · obtain ⟨violation, events⟩ := Compilation.ofEvents_declaring layout pairs (body ++ [Event.endDocument])
      rw [compile, document_append, violation, events, outcome, written, List.append_assoc]
      rfl

/-! ## The text -/

namespace Event

def prefixLine (pair : String × String) : List Char :=
  "PREFIX ".toList ++ pair.1.toList ++ ": ".toList ++ Term.writtenIri pair.2.toList ++ ['\n']

def baseLine (iri : String) : List Char := "BASE ".toList ++ Term.writtenIri iri.toList ++ ['\n']

theorem printFrom_bases (iris : List String) (rest : List Event) :
    printFrom 0 (iris.map .base ++ rest) = iris.flatMap baseLine ++ printFrom 0 rest := by
  induction iris with
  | nil => rfl
  | cons iri iris ih =>
    rw [List.map_cons, List.cons_append, List.flatMap_cons, List.append_assoc, ← ih]
    rfl

theorem printFrom_declaring (pairs : List (String × String)) (rest : List Event) :
    printFrom 0 (declaring pairs ++ rest) = pairs.flatMap prefixLine ++ printFrom 0 rest := by
  induction pairs with
  | nil => rfl
  | cons pair pairs ih =>
    rw [List.flatMap_cons, List.append_assoc, ← ih]
    rfl

theorem queryText_opening (iris : List String) (pairs : List (String × String)) (rest : List Event) :
    Event.queryText (Event.startDocument :: iris.map .base ++ declaring pairs ++ rest) =
      String.ofList (iris.flatMap baseLine ++ pairs.flatMap prefixLine ++ printFrom 0 rest) := by
  rw [List.append_assoc, List.append_assoc, ← printFrom_declaring, ← printFrom_bases]
  rfl

end Event

/-! ## The namespace in force -/

def inForce (pairs : List (String × String)) (label : String) : Option String :=
  ({ namespaces := pairs } : Prologue).namespace? label

theorem inForce_append (front back : List (String × String)) (label : String) :
    inForce (front ++ back) label = (inForce back label).or (inForce front label) := by
  rw [inForce, Prologue.namespace?, List.reverse_append, List.lookup_append]
  rfl

theorem inForce_map {pairs : List (String × String)} (ordered : pairs.Pairwise fun a b => a.1 < b.1) (label : String) :
    inForce pairs label = pairs.lookup label :=
  (Pairs.lookup_perm (Pairs.once_of_ordered ordered) (List.reverse_perm pairs).symm).symm

/-- A label that the document declares has the namespace that it declares last, and any other one that of the
settings. -/
theorem Settings.inForce_filling {s : Settings} (ordered : s.namespaces.Pairwise fun a b => a.1 < b.1)
    (body : List Event) (label : String) :
    inForce (s.filling body ++ declared body) label =
      (inForce (declared body) label).or (s.namespaces.lookup label) := by
  have fills : inForce (s.filling body) label = (s.filling body).lookup label := inForce_map (ordered.filter _) label
  rw [inForce_append, fills]
  cases own : inForce (declared body) label with
  | some iri => rfl
  | none =>
    have absent : label ∉ (declared body).reverse.map Prod.fst := Pairs.notMem_keys own
    rw [Option.none_or, Option.none_or, filling, Pairs.lookup_filter (Pairs.once_of_ordered ordered)]
    simpa using absent

/-! ## Settings and document together -/

/-- The namespaces declared in a query are those of the settings whose labels the document does not declare, in their
order, and then those of the document in its order. So each label has the namespace that the document declares last for
it, or else that of the settings; and without the lines of the settings the text is the one without their namespaces. -/
theorem Settings.queryText_fills_gaps (s : Settings) (ordered : s.namespaces.Pairwise fun a b => a.1 < b.1)
    (layout : Layout) (base : Option String) (body : List Event)
    (inner : ∀ e ∈ body, e ≠ .startDocument ∧ e ≠ .endDocument) (text : String)
    (rendered : s.queryText layout base (document body) = .ok text) :
    let own := declared body
    let filling := s.filling body
    ∃ (iris : List String) (rest : List Event), declared rest = [] ∧
      (let out := Event.startDocument :: iris.map .base ++ declaring (filling ++ own) ++ rest
       compile layout (s.stream base (document body)) = .ok out ∧ Event.queryText out = text ∧
         declared out = filling ++ own) ∧
      filling.Pairwise (fun a b => a.1 < b.1) ∧
      (∀ label, inForce (filling ++ own) label = (inForce own label).or (s.namespaces.lookup label)) ∧
      text = String.ofList
        (iris.flatMap baseLine ++ filling.flatMap prefixLine ++ own.flatMap prefixLine ++ printFrom 0 rest) ∧
      ({ s with namespaces := [] } : Settings).queryText layout base (document body) =
        .ok (String.ofList (iris.flatMap baseLine ++ own.flatMap prefixLine ++ printFrom 0 rest)) := by
  intro own filling
  obtain ⟨body', inner', declares, stream⟩ := exists_stream base inner
  obtain ⟨outcome, silent, compiled⟩ := exists_compile_declaring layout inner'
  obtain ⟨iris, bases⟩ := Ahead.exists_bases (body' ++ [Event.endDocument])
  -- With the same base, all settings compile alike but for what they fill in.
  have compiles (s : Settings) : compile layout (s.stream base (document body)) = outcome.map fun rest =>
      Event.startDocument :: iris.map .base ++ declaring (s.filling body ++ own) ++ rest := by
    rw [stream, compiled, declares, bases]
  rw [queryText_eq, compiles] at rendered
  cases outcome with
  | error v => cases rendered
  | ok rest =>
    have printed := Except.ok.inj rendered
    refine ⟨iris, rest, silent rest rfl, ⟨compiles s, printed, ?_⟩, ordered.filter _, s.inForce_filling ordered body,
      ?_, ?_⟩
    · have bare : declared (.startDocument :: iris.map .base) = [] := declared_eq_nil (by simp)
      rw [declared_append, declared_append, bare, declared_declaring, silent rest rfl, List.nil_append, List.append_nil]
    · rw [← printed, queryText_opening, List.flatMap_append, ← List.append_assoc]
    · have unfilled : ({ s with namespaces := [] } : Settings).filling body = [] := rfl
      rw [queryText_eq, compiles, unfilled]
      exact congrArg Except.ok (queryText_opening iris own rest)

def library : Settings := { namespaces := [("dc", "urn:dc:"), ("foaf", "urn:other:")] }

def libraryText : String := "[prefixes]\nfoaf = \"urn:other:\"\ndc = 'urn:dc:'\n"

theorem ofText?_libraryText : Settings.ofText? libraryText = some library := by
  have entries : Toml.ofChars? libraryText.toList =
      some [("prefixes", .table .headed [("foaf", .text "urn:other:"), ("dc", .text "urn:dc:")])] := by
    simp only [libraryText, String.reduceToList]
    rfl
  have sorted : [("foaf", "urn:other:"), ("dc", "urn:dc:")].mergeSort (fun a b => decide (a.1 ≤ b.1)) =
      [("dc", "urn:dc:"), ("foaf", "urn:other:")] := by
    simp [List.mergeSort]
  rw [Settings.ofText?, entries]
  exact congrArg (fun namespaces => some ({ namespaces } : Settings)) sorted

/-- A page that declares one of the two labels, late and twice. -/
def byline : List Event :=
  let page : Node := { term := .reference "?this" "old:/?this", origin := some "/1" }
  let name : Node := { term := .curie "foaf" "name" "urn:foaf:name" }
  [.startSubject page, .declare "foaf" "urn:old:",
    .triple ⟨page, name, { term := .plain "", origin := some "/1/1" }, false⟩,
    .declare "foaf" "urn:foaf:", .endSubject page]

/-- The settings give `dc` only, and the second declaration of `foaf` is in force. -/
theorem Settings.queryText_fills_gaps_byline :
    ofText? libraryText = some library ∧
    ∃ out, compile {} (library.stream (some "new:/") (document byline)) = .ok out ∧
      declared out = [("dc", "urn:dc:"), ("foaf", "urn:old:"), ("foaf", "urn:foaf:")] ∧
      inForce (declared out) "dc" = some "urn:dc:" ∧
      inForce (declared out) "foaf" = some "urn:foaf:" := by
  have read := ofText?_libraryText
  have fine : (compile {} (library.stream (some "new:/") (document byline))).isOk = true := by decide +kernel
  cases outcome : compile {} (library.stream (some "new:/") (document byline)) with
  | error v =>
    rw [outcome] at fine
    cases fine
  | ok out =>
    have rendered : library.queryText {} (some "new:/") (document byline) = .ok (Event.queryText out) := by
      rw [queryText_eq, outcome]
      rfl
    obtain ⟨iris, rest, -, ⟨compiled, -, declares⟩, -, governs, -⟩ :=
      queryText_fills_gaps library (ordered_of_ofText? read) {} (some "new:/") byline (by decide) _ rendered
    refine ⟨read, _, outcome.symm.trans compiled, declares, ?_, ?_⟩
    · rw [declares, governs]
      rfl
    · rw [declares, governs]
      rfl

end TemplateQuery
