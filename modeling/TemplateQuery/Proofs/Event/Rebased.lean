import TemplateQuery.Event.Rebase
import TemplateQuery.Proofs.Clause.Terms

/-! A document under another base. The stream has that base and no other, ahead of its content, resolves every reference
against it and says otherwise what the document says; so does the query that it is compiled to. Main statement:
`onto_consistent`. -/

set_option autoImplicit false

namespace TemplateQuery

/-! ## Documents against one base -/

def Term.ResolvedAgainst (base : String) : Term → Prop
  | .reference relative resolved => resolved = Iri.resolve base relative
  | _ => True

def Term.unresolved : Term → Term
  | .reference relative _ => .reference relative ""
  | t => t

def Event.mapTerms (f : Term → Term) : Event → Event
  | .startSubject node => .startSubject { node with term := f node.term }
  | .endSubject node => .endSubject { node with term := f node.term }
  | .startGraph term => .startGraph (f term)
  | .endGraph term => .endGraph (f term)
  | .triple t => .triple
      { t with
        subject := { t.subject with term := f t.subject.term }
        predicate := { t.predicate with term := f t.predicate.term }
        object := { t.object with term := f t.object.term } }
  | .pattern p => .pattern { p with subject := f p.subject, predicate := f p.predicate, object := f p.object }
  | e => e

/-- What a document says, apart from its bases and from what its references are resolved to. -/
def content (events : List Event) : List Event :=
  (events.filter fun e => !e.isBase).map (Event.mapTerms Term.unresolved)

namespace Event.BaseChange

def onto (iri : String) : BaseChange := ⟨none, some iri⟩

/-- The stream says what the document says, with one base ahead of everything that may refer to it. -/
structure Rebased (iri : String) (document stream : List Event) : Prop where
  bases : ∀ declared, .base declared ∈ stream → declared = iri
  announced : .base iri ∈ stream.takeWhile fun e => !announces e
  resolved : ∀ e ∈ stream, ∀ t ∈ e.terms, t.ResolvedAgainst iri
  kept : content stream = content document

structure Based (layout : Layout) (iri : String) (out : List Event) : Prop where
  opened : ∃ bases declarations rest,
    out = .startDocument :: bases ++ declarations ++ Compile.header layout ++ rest ∧
    bases ≠ [] ∧ (∀ e ∈ bases, e = .base iri) ∧ (∀ e ∈ declarations, ∃ label space, e = .declare label space) ∧
    ∀ e ∈ rest, e.isBase = false
  resolved : ∀ e ∈ out, ∀ t ∈ e.terms, t.ResolvedAgainst iri

/-! ## One event -/

variable {iri : String} {e : Event} {es : List Event} {based : Bool}

def rebased (iri : String) : Event → Event
  | .base _ => .base iri
  | e => e.mapTerms (Term.rebase iri)

theorem event_onto (iri : String) (e : Event) : (onto iri).event e = [rebased iri e] := by
  cases e <;> rfl

theorem applyFrom_onto_cons (iri : String) (based : Bool) (e : Event) (es : List Event) :
    (onto iri).applyFrom based (e :: es) = (if !based && announces e then [.base iri] else []) ++
      rebased iri e :: (onto iri).applyFrom (based || announces e || e.isBase) es :=
  calc (onto iri).applyFrom based (e :: es)
    _ = (if !based && announces e then [.base iri] else []) ++ (onto iri).event e ++
        (onto iri).applyFrom (based || announces e || e.isBase) es := rfl
    _ = _ := by rw [event_onto, List.append_assoc, List.singleton_append]

theorem resolved_rebase (iri : String) (t : Term) : (t.rebase iri).ResolvedAgainst iri := by
  cases t with
  | reference relative _ => exact Eq.refl (Iri.resolve iri relative)
  | _ => exact trivial

theorem unresolved_rebase (iri : String) (t : Term) : (t.rebase iri).unresolved = t.unresolved := by
  cases t with
  | reference relative _ => exact Eq.refl (Term.reference relative "")
  | _ => rfl

theorem resolved_rebased {t : Term} (member : t ∈ (rebased iri e).terms) : t.ResolvedAgainst iri := by
  have each : ∀ u, t = Term.rebase iri u → t.ResolvedAgainst iri := by
    rintro u rfl
    exact resolved_rebase iri u
  cases e with
  | startSubject _ | endSubject _ | startGraph _ | endGraph _ =>
    exact each _ (List.mem_singleton.mp member)
  | triple _ | pattern _ =>
    simp only [rebased, mapTerms, terms, List.mem_cons, List.not_mem_nil, or_false] at member
    rcases member with first | second | third
    · exact each _ first
    · exact each _ second
    · exact each _ third
  | _ => cases member

theorem isBase_rebased (iri : String) (e : Event) : (rebased iri e).isBase = e.isBase := by
  cases e <;> rfl

theorem rebased_of_isBase (kind : e.isBase = true) : rebased iri e = .base iri := by
  cases e with
  | base _ => rfl
  | _ => cases kind

theorem rebased_of_quiet (quiet : announces e = false) (other : e.isBase = false) : rebased iri e = e := by
  cases e with
  | startDocument | declare _ _ => rfl
  | base _ => cases other
  | _ => cases quiet

theorem mapTerms_rebased (other : e.isBase = false) :
    (rebased iri e).mapTerms Term.unresolved = e.mapTerms Term.unresolved := by
  cases e with
  | base _ => cases other
  | startSubject _ | endSubject _ | startGraph _ | endGraph _ | triple _ | pattern _ =>
    simp only [rebased, mapTerms, unresolved_rebase]
  | _ => rfl

/-! ## The stream -/

theorem mem_applyFrom {d : Event} (member : d ∈ (onto iri).applyFrom based es) :
    d = .base iri ∨ ∃ e ∈ es, d = rebased iri e := by
  induction es generalizing based with
  | nil => cases member
  | cons e es ih =>
    rw [applyFrom_onto_cons, List.mem_append, List.mem_cons] at member
    rcases member with announced | here | later
    · split at announced
      · exact .inl (List.mem_singleton.mp announced)
      · cases announced
    · exact .inr ⟨e, List.mem_cons_self, here⟩
    · apply (ih later).imp id
      rintro ⟨c, inside, same⟩
      exact ⟨c, List.mem_cons_of_mem e inside, same⟩

theorem content_applyFrom (iri : String) (based : Bool) (es : List Event) :
    content ((onto iri).applyFrom based es) = content es := by
  induction es generalizing based with
  | nil => rfl
  | cons e es ih =>
    have silent : (if !based && announces e then [Event.base iri] else []).filter (fun d => !d.isBase) = [] := by
      split <;> rfl
    have later := ih (based || announces e || e.isBase)
    unfold content at later ⊢
    rw [applyFrom_onto_cons, List.filter_append, silent, List.nil_append]
    cases kind : e.isBase with
    | true => simpa [isBase_rebased, kind] using later
    | false => simpa [isBase_rebased, kind, mapTerms_rebased kind] using later

/-- The base stands before the first event that announces it, however much of the stream is looked through, as long as
declarations and bases are passed over. By induction on the document, up to its first base or its first announcement. -/
theorem announced_applyFrom {look : Event → Bool} (bases : look (.base iri) = true)
    (passes : ∀ e ∈ es, announces e = false → look e = true) (speaks : ∃ e ∈ es, announces e = true) :
    .base iri ∈ ((onto iri).applyFrom false es).takeWhile look := by
  induction es with
  | nil => simp at speaks
  | cons e es ih =>
    rw [applyFrom_onto_cons]
    rw [List.forall_mem_cons] at passes
    cases own : announces e with
    | true =>
      -- Nothing before it was a base, so one is put in front of it.
      simp [bases]
    | false =>
      cases kind : e.isBase with
      | true => simp [rebased_of_isBase kind, bases]
      | false =>
        have later := ih passes.2 (by simpa [own] using speaks)
        simp [rebased_of_quiet own kind, passes.1 own, later]

theorem base_of_mem_applyFrom {declared : String} (member : .base declared ∈ (onto iri).applyFrom based es) :
    declared = iri := by
  rcases mem_applyFrom member with same | ⟨e, _, same⟩
  · exact Event.base.inj same
  · have kind : e.isBase = true := by rw [← isBase_rebased iri, ← same]; rfl
    rw [rebased_of_isBase kind] at same
    exact Event.base.inj same

theorem resolved_applyFrom : ∀ e ∈ (onto iri).applyFrom based es, ∀ t ∈ e.terms, t.ResolvedAgainst iri := by
  intro e member t inside
  rcases mem_applyFrom member with rfl | ⟨d, _, rfl⟩
  · cases inside
  · exact resolved_rebased inside

theorem rebased_apply {document : List Event} (speaks : ∃ e ∈ document, announces e = true) :
    Rebased iri document ((onto iri).apply document) where
  bases := fun _ => base_of_mem_applyFrom
  announced := announced_applyFrom rfl (fun e _ quiet => by simp [quiet]) speaks
  resolved := resolved_applyFrom
  kept := content_applyFrom iri false document

/-! ## The query -/

section Query

variable (iri) (later : ∀ e ∈ es, e ≠ .startDocument) (speaks : ∃ e ∈ es, announces e = true)

include later

theorem ne_startDocument_applyFrom : ∀ e ∈ (onto iri).applyFrom false es, e ≠ .startDocument := by
  rintro e member rfl
  rcases mem_applyFrom member with same | ⟨d, inside, same⟩
  · cases same
  · cases d with
    | startDocument => exact later _ inside rfl
    | _ => cases same

include speaks

theorem bases_applyFrom :
    Ahead.bases ((onto iri).applyFrom false es) ≠ [] ∧
      ∀ e ∈ Ahead.bases ((onto iri).applyFrom false es), e = .base iri := by
  -- The look ahead from the start of a document finds the base, since nothing starts or ends before it, and no other.
  constructor
  · have found : .base iri ∈ ((onto iri).applyFrom false es).takeWhile fun e => !(e.isStart || e.isEnd) := by
      apply announced_applyFrom rfl _ speaks
      intro e member quiet
      cases e with
      | startDocument => exact absurd rfl (later _ member)
      | declare _ _ | base _ => rfl
      | _ => cases quiet
    exact List.ne_nil_of_mem (List.mem_filter.mpr ⟨found, rfl⟩)
  · intro e member
    obtain ⟨declared, rfl⟩ := Ahead.base_of_mem_bases member
    have inside := (List.takeWhile_sublist _).subset (List.mem_of_mem_filter member)
    rw [base_of_mem_applyFrom inside]

theorem based_ofEvents (layout : Layout) :
    Based layout iri (Compilation.ofEvents layout ((onto iri).apply (.startDocument :: es))).events := by
  have stream : (onto iri).apply (.startDocument :: es) = .startDocument :: (onto iri).applyFrom false es :=
    applyFrom_onto_cons iri false .startDocument es
  have found := bases_applyFrom iri later speaks
  have first := ne_startDocument_applyFrom iri later
  have resolved := @resolved_applyFrom iri es false
  rw [stream]
  generalize (onto iri).applyFrom false es = after at found first resolved
  let opened := Compile.startDocument layout after {}
  have drawn : ∀ e ∈ (Compilation.ofSession layout opened after).events, e.Drawn (Term.ResolvedAgainst iri) :=
    drawn_ofSession (fun _ => trivial) first resolved (by simp [opened, Compile.startDocument, Session.emit])
  have ran : Compile.step layout after .startDocument {} = (.ok (), opened) := rfl
  rw [Compilation.ofEvents, Compilation.events_ofSession_cons ran]
  refine ⟨⟨_, _, _, rfl, found.1, found.2, fun _ => Ahead.declare_of_mem_declarations,
    fun e member => (drawn e member).unbased⟩, ?_⟩
  rw [List.forall_mem_append]
  refine ⟨?_, fun e member => (drawn e member).terms⟩
  intro e member
  simp [Compile.terms_opening layout after e member]

end Query

/-- Under a new base a document keeps its content, and the query compiled from it has that base, however far the
compilation gets. -/
theorem onto_consistent (layout : Layout) (iri : String) {body : List Event}
    (inner : ∀ e ∈ body, e ≠ .startDocument ∧ e ≠ .endDocument) :
    let document := [.startDocument] ++ body ++ [.endDocument]
    let stream := (onto iri).apply document
    Rebased iri document stream ∧ Based layout iri (Compilation.ofEvents layout stream).events ∧
      ∀ out, compile layout stream = .ok out → Based layout iri out := by
  intro document stream
  have later : ∀ e ∈ body ++ [Event.endDocument], e ≠ .startDocument := by
    rw [List.forall_mem_append]
    exact ⟨fun e member => (inner e member).1, by simp⟩
  have speaks : ∃ e ∈ body ++ [Event.endDocument], announces e = true := ⟨.endDocument, by simp, rfl⟩
  have based : Based layout iri (Compilation.ofEvents layout stream).events := based_ofEvents iri later speaks layout
  refine ⟨rebased_apply ⟨.endDocument, by simp [document], rfl⟩, based, fun out compiled => ?_⟩
  rw [← (compile_eq_ok compiled).2]
  exact based

def glossary : List Event :=
  let page : Node := { term := .reference "entry" "old:/entry", origin := some "/1" }
  let name : Node := { term := .iri "p:name" }
  [.declare "p" "p:", .comment "A glossary.", .base "old:/", .startSubject page,
    .triple ⟨page, name, { term := .plain "?name", origin := some "/1 2" }, false⟩, .endSubject page]

theorem onto_consistent_glossary :
    let document := [.startDocument] ++ glossary ++ [.endDocument]
    let stream := (onto "new:/a/").apply document
    Rebased "new:/a/" document stream ∧ (stream.filter Event.isBase).length = 2 ∧
      ∃ out, compile {} stream = .ok out ∧ Based {} "new:/a/" out ∧
        .pattern ⟨.reference "entry" "new:/a/entry", .iri "p:name", .var "name", false⟩ ∈ out := by
  intro document stream
  have inner : ∀ e ∈ glossary, e ≠ .startDocument ∧ e ≠ .endDocument := by decide
  have consistent := onto_consistent {} "new:/a/" inner
  have clean : (Compilation.ofEvents {} stream).violation = none := by decide +kernel
  refine ⟨consistent.1, by decide +kernel, (Compilation.ofEvents {} stream).events, ?_, consistent.2.1, ?_⟩
  · simp only [compile, clean]
  · decide +kernel

end Event.BaseChange

end TemplateQuery
