import TemplateQuery.Proofs.Clause.Grammar
import TemplateQuery.Proofs.Clause.Ledger
import TemplateQuery.Proofs.Origins.Notes
import TemplateQuery.Proofs.Token.Ending

/-! What a compilation captures is read back from the text of its query. Every captured name is one that a variable may
have, each is captured under one entry, and no pattern holds the mark of a note, as long as nothing in the template
does. Main statement: `ofQueryText_compiled_iff`. -/

set_option autoImplicit false

namespace TemplateQuery

open Origins

/-! ## Names of variables -/

namespace Token

theorem bare_of_isVarName {name : List Char} (valid : isVarName name = true) : Bare name :=
  bare_of_absent fun member => absurd (isVarChar_of_isVarName valid '@' member) (by decide)

end Token

/-! ## What the template says -/

def Event.nodes : Event → List Node
  | .startSubject node | .endSubject node => [node]
  | .triple t => [t.subject, t.predicate, t.object]
  | _ => []

def Placed (origin : String) : Prop := origin ≠ "" ∧ '\n' ∉ origin.toList

/-- Nodes with such a place, if they have one, and without the word that announces a note. -/
structure Node.Notable (node : Node) : Prop where
  placed : ∀ origin ∈ node.origin, Placed origin
  bare : ∀ text ∈ node.term.texts, Bare text.toList

def Triple.Notable (t : Triple) : Prop := t.subject.Notable ∧ t.predicate.Notable ∧ t.object.Notable

/-! ## What is captured -/

/-- Names that variables may have, each once, with places that fit on a line. -/
structure Origins.Sound (o : Origins) : Prop where
  named : ∀ entry ∈ o.entries, Token.isVarName entry.1.toList = true
  placed : ∀ entry ∈ o.entries, Placed entry.2
  distinct : (o.entries.map Prod.fst).Nodup

namespace Naming

variable {n n' : Naming} {node : Node} {triple? : Option Triple} {record : Bool} {t : Term}

theorem sound_capture (sound : n.origins.Sound) (notable : node.Notable) {name : String}
    (valid : Token.isVarName name.toList = true) (wanted : Bool) : (n.capture wanted name node).origins.Sound := by
  unfold Naming.capture
  split
  · next origin known =>
    refine ⟨fun entry member => ?_, fun entry member => ?_, nodup_insertInto sound.distinct⟩
    · rcases mem_insertInto member with rfl | old
      · exact valid
      · exact sound.named entry old
    · rcases mem_insertInto member with rfl | old
      · exact notable.placed origin known
      · exact sound.placed entry old
  · exact sound

theorem sound_resolve (sound : n.origins.Sound) (notable : node.Notable)
    (found : n.resolve node triple? record = (.ok t, n')) :
    n'.origins.Sound ∧ ∀ text ∈ t.texts, Bare text.toList := by
  rcases resolve_ok found with ⟨-, rfl, rfl⟩ | ⟨name, registry, wanted, -, rfl, valid, rfl⟩
  · exact ⟨sound, notable.bare⟩
  · refine ⟨sound_capture ?_ notable valid wanted, by simpa [Term.texts] using Token.bare_of_isVarName valid⟩
    exact sound

theorem sound_pattern {u : Triple} {p : Pattern} (sound : n.origins.Sound) (notable : u.Notable)
    (found : n.pattern u = (.ok p, n')) :
    n'.origins.Sound ∧ ∀ text ∈ (Event.pattern p).texts, Bare text.toList := by
  obtain ⟨subject, mid, object, first, second, rfl⟩ := pattern_ok found
  obtain ⟨sound, bareSubject⟩ := sound_resolve sound notable.1 first
  obtain ⟨sound, bareObject⟩ := sound_resolve sound notable.2.2 second
  refine ⟨sound, fun text member => ?_⟩
  simp only [Event.texts, List.mem_append] at member
  rcases member with (member | member) | member
  · exact bareSubject text member
  · exact notable.2.1.bare text member
  · exact bareObject text member

end Naming

/-! ## What a session has captured and written -/

structure Session.Captures (s : Session) : Prop where
  sound : s.naming.origins.Sound
  bare : ∀ p ∈ patterns s.output, ∀ text ∈ (Event.pattern p).texts, Bare text.toList

namespace Session.Captures

variable {layout : Layout} {s s' : Session} {n : Naming} {p : Pattern} {u : Triple}

theorem silent (captures : s.Captures) (silent : Silent s s') : s'.Captures :=
  ⟨silent.naming ▸ captures.sound, by rw [silent.unwritten]; exact captures.bare⟩

theorem renamed (captures : s.Captures) (sound : n.origins.Sound) : Session.Captures { s with naming := n } :=
  ⟨sound, captures.bare⟩

theorem writes (captures : s.Captures) (bare : ∀ text ∈ (Event.pattern p).texts, Bare text.toList)
    (wrote : Writes s p s') : s'.Captures := by
  refine ⟨wrote.naming ▸ captures.sound, fun q member => ?_⟩
  rw [wrote.wrote, List.mem_append, List.mem_singleton] at member
  rcases member with early | rfl
  · exact captures.bare q early
  · exact bare

theorem require (captures : s.Captures) (notable : u.Notable) (ran : Compile.require layout u s = (.ok (), s')) :
    s'.Captures := by
  rcases Compile.require_ok ran with ⟨-, rfl⟩ | ⟨p, n, -, found, rfl⟩
  · exact captures
  · obtain ⟨sound, bare⟩ := Naming.sound_pattern captures.sound notable found
    exact (captures.renamed sound).writes bare (.join layout p _)

theorem statement {ahead? : Option (List Event)} (captures : s.Captures) (notable : u.Notable)
    (ran : Compile.statement layout ahead? u s = (.ok (), s')) : s'.Captures := by
  rcases Compile.statement_ok ran with ⟨-, rfl⟩ | ⟨p, n, -, found, placed⟩
  · exact captures
  obtain ⟨sound, bare⟩ := Naming.sound_pattern captures.sound notable found
  have named := captures.renamed sound
  rcases placed with ⟨-, rfl⟩ | ⟨lone, -, -, rfl⟩
  · exact named.silent (.settle layout _)
  · exact (named.silent (.ready layout _)).writes bare (.place layout lone p _)

theorem startSubject {node : Node} {ahead : List Event} (captures : s.Captures) (notable : node.Notable)
    (triples : ∀ u, .triple u ∈ ahead → u.Notable) (ran : Compile.startSubject layout node ahead s = (.ok (), s')) :
    s'.Captures := by
  obtain ⟨subject, n, middle, lone, found, first, -, brought⟩ := Compile.startSubject_ok ran
  have named := captures.renamed (Naming.sound_resolve captures.sound notable found).1
  have opened := named.silent (.openSubject layout subject _)
  have joined : middle.Captures := by
    apply Compile.forM_keeps _ opened first
    intro u member _ _ captures
    exact captures.require (triples u (Ahead.triple_of_mem_ownTriples member))
  apply Compile.forM_keeps _ (joined.silent (.room layout lone middle)) brought
  intro u member _ _ captures
  exact captures.statement (triples u (Ahead.triple_of_mem_enclosing member))

theorem step {e : Event} {ahead : List Event} (inner : e ≠ .startDocument ∧ e ≠ .endDocument) (captures : s.Captures)
    (notable : ∀ d ∈ e :: ahead, ∀ node ∈ d.nodes, node.Notable) (ran : Compile.step layout ahead e s = (.ok (), s')) :
    s'.Captures := by
  have triples : ∀ u, .triple u ∈ e :: ahead → u.Notable := fun u member =>
    ⟨notable _ member _ (by simp [Event.nodes]), notable _ member _ (by simp [Event.nodes]),
      notable _ member _ (by simp [Event.nodes])⟩
  cases e with
  | startDocument => exact absurd rfl inner.1
  | endDocument => exact absurd rfl inner.2
  | startSubject node =>
    exact captures.startSubject (notable _ List.mem_cons_self node (by simp [Event.nodes]))
      (fun u member => triples u (List.mem_cons_of_mem _ member)) ran
  | triple u => exact captures.statement (triples u List.mem_cons_self) ran
  | endSubject node => cases ran; exact captures.silent (.leaveTimes layout _ s)
  | base _ | declare _ _ | startGraph _ | endGraph _ | pattern _ | comment _ | select | ask | whereBlock _ | optional _
  | group _ | union | orderBy _ =>
    cases ran
    exact captures

theorem ofSession {body : List Event} (inner : ∀ e ∈ body, e ≠ .startDocument ∧ e ≠ .endDocument)
    (notable : ∀ e ∈ body, ∀ node ∈ e.nodes, node.Notable) (sound : s.naming.origins.Sound)
    (clean : (Compilation.ofSession layout s (body ++ [Event.endDocument])).violation = none) :
    (Compilation.ofSession layout s (body ++ [Event.endDocument])).origins.Sound ∧
      ∀ p ∈ patterns (Compilation.ofSession layout s (body ++ [Event.endDocument])).events,
        ∀ text ∈ (Event.pattern p).texts, Bare text.toList := by
  have start : ({ s with output := [] } : Session).Captures := ⟨sound, by simp [patterns]⟩
  induction body generalizing s with
  | nil =>
    obtain ⟨s', ran, -, events⟩ := Compilation.ofSession_cons clean
    have known := Compilation.origins_ofSession_cons ran
    cases ran
    have closed := start.silent (.endDocument layout _)
    rw [List.nil_append, events, known, show (Compilation.ofSession layout _ []).events = [] from rfl, List.append_nil]
    exact ⟨closed.sound, closed.bare⟩
  | cons e body ih =>
    rw [List.cons_append] at clean ⊢
    obtain ⟨s', ran, clean, events⟩ := Compilation.ofSession_cons clean
    have ahead : ∀ d ∈ e :: (body ++ [Event.endDocument]), ∀ node ∈ d.nodes, node.Notable := by
      intro d member
      rw [← List.cons_append, List.mem_append, List.mem_singleton] at member
      rcases member with early | rfl
      · exact notable d early
      · simp [Event.nodes]
    have here := start.step (inner e List.mem_cons_self) ahead ran
    obtain ⟨last, later⟩ := ih (fun d member => inner d (List.mem_cons_of_mem e member))
      (fun d member => notable d (List.mem_cons_of_mem e member)) here.sound clean ⟨here.sound, by simp [patterns]⟩
    rw [events, Compilation.origins_ofSession_cons ran]
    refine ⟨last, fun p member => ?_⟩
    rw [patterns_append, List.mem_append] at member
    rcases member with early | late
    · exact here.bare p early
    · exact later p late

end Session.Captures

/-! ## The text of the query -/

variable {layout : Layout} {body out : List Event}

theorem Event.texts_of_mem_nodes {e : Event} {node : Node} (member : node ∈ e.nodes) : node.term.texts ⊆ e.texts := by
  cases e with
  | startSubject _ | endSubject _ => obtain rfl := List.mem_singleton.mp member; exact fun _ inside => inside
  | triple t =>
    intro text inside
    simp only [nodes, List.mem_cons, List.not_mem_nil, or_false] at member
    simp only [texts, List.mem_append]
    rcases member with rfl | rfl | rfl
    · exact .inl (.inl inside)
    · exact .inl (.inr inside)
    · exact .inr inside
  | _ => cases member

theorem clear_clause {form : Bool} {e : Event} (clause : e.isClause form = true)
    (bare : ∀ p, e = .pattern p → ∀ text ∈ (Event.pattern p).texts, Bare text.toList) : Clear e.line.text := by
  -- Among the clauses of a body only patterns have texts that are printed.
  cases e with
  | startSubject _ | endSubject _ => exact .nil
  | pattern p => exact clear_line (bare p rfl)
  | optional _ | group _ | union => exact clear_line (by simp [Event.texts])
  | _ => cases clause

theorem Compile.footer_eq_notes (shape : layout.shape ≠ .construct) (o : Origins) :
    footer layout o = .whereBlock .closing :: o.notes.map .comment := by
  unfold footer
  split
  · next form => exact absurd form shape
  · rfl
  · rfl

theorem clear_before_notes (shape : layout.shape ≠ .construct)
    (inner : ∀ e ∈ body, e ≠ .startDocument ∧ e ≠ .endDocument)
    (notable : ∀ e ∈ body, ∀ node ∈ e.nodes, node.Notable) (bare : ∀ e ∈ body, ∀ text ∈ e.texts, Bare text.toList)
    (compiled : compile layout ([Event.startDocument] ++ body ++ [Event.endDocument]) = .ok out) :
    let captured := (Compilation.ofEvents layout ([Event.startDocument] ++ body ++ [Event.endDocument])).origins
    captured.Sound ∧ ∃ front, out = front ++ (captured.notes.map .comment ++ [Event.endDocument]) ∧
      ∀ e ∈ front, Clear e.line.text := by
  obtain ⟨clean, rfl⟩ := compile_eq_ok compiled
  unfold Compilation.ofEvents at clean ⊢
  rw [List.append_assoc, List.singleton_append] at clean ⊢
  obtain ⟨s, ran, clean, events⟩ := Compilation.ofSession_cons clean
  have known := Compilation.origins_ofSession_cons ran
  cases ran
  obtain ⟨text, finished, later⟩ := finished_with_origins inner (inProgress_start layout _) clean
  have fresh : Origins.Sound {} := ⟨by simp, by simp, by simp⟩
  obtain ⟨sound, written⟩ := Session.Captures.ofSession inner notable fresh clean
  have fromBody : ∀ {e : Event}, e ∈ body ++ [Event.endDocument] → ∀ text ∈ e.texts, Bare text.toList := by
    intro e member
    rcases List.mem_append.mp member with inside | last
    · exact bare e inside
    · rw [List.mem_singleton.mp last]
      simp [Event.texts]
  rw [events, known]
  -- In front of the notes are the opening of the query, the clauses of its body, and the brace that closes it.
  refine ⟨sound, (Event.startDocument :: Ahead.bases (body ++ [Event.endDocument]) ++
    Ahead.declarations (body ++ [Event.endDocument]) ++ Compile.header layout) ++
      (text ++ [Event.whereBlock .closing]), ?_, ?_⟩
  · rw [later, Compile.footer_eq_notes shape]
    simp [Compile.startDocument, Session.emit]
  · intro e member
    simp only [List.mem_append, List.mem_cons, List.not_mem_nil, or_false] at member
    rcases member with (((rfl | base) | declaration) | opened) | clause | rfl
    · exact .nil
    · exact clear_line (fromBody ((List.takeWhile_sublist _).subset (List.mem_of_mem_filter base)))
    · exact clear_line (fromBody ((List.takeWhile_sublist _).subset (List.mem_of_mem_filter declaration)))
    · rcases Compile.mem_header opened with rfl | rfl | rfl <;> exact clear_line (by simp [Event.texts])
    · refine clear_clause (finished.clauses e (by simpa using clause)) fun p same => written p ?_
      rw [later]
      exact List.mem_filterMap.mpr ⟨e, List.mem_append_left _ clause, by rw [same]⟩
    · exact clear_line (by simp [Event.texts])

/-- The origins noted in a query are read back from its text, all of them in their order and nothing else, unless a
variable has white space in its name. -/
theorem ofQueryText_compiled_iff (shape : layout.shape ≠ .construct)
    (inner : ∀ e ∈ body, e ≠ .startDocument ∧ e ≠ .endDocument)
    (placed : ∀ e ∈ body, ∀ node ∈ e.nodes, ∀ origin ∈ node.origin, origin ≠ "" ∧ '\n' ∉ origin.toList)
    (bare : ∀ e ∈ body, ∀ text ∈ e.texts, ¬ "@origin".toList <:+: text.toList)
    (compiled : compile layout ([.startDocument] ++ body ++ [.endDocument]) = .ok out) :
    let captured := (Compilation.ofEvents layout ([.startDocument] ++ body ++ [.endDocument])).origins
    ofQueryText (Event.queryText out) = captured ↔
      ∀ entry ∈ captured.entries, Token.oghamSpace ∉ entry.1.toList := by
  intro captured
  have notable : ∀ e ∈ body, ∀ node ∈ e.nodes, node.Notable := fun e member node inside =>
    ⟨placed e member node inside, fun text among => bare e member text (Event.texts_of_mem_nodes inside among)⟩
  obtain ⟨sound, front, same, clear⟩ := clear_before_notes shape inner notable bare compiled
  constructor
  · intro whole entry member space
    rw [← whole] at member
    exact absurd (unspaced_of_mem_ofQueryText member _ space) (by decide)
  · intro unspaced
    have legible : ∀ entry ∈ captured.entries, Legible entry := by
      intro entry member
      have valid := sound.named entry member
      refine ⟨?_, fun c inside => ?_, (sound.placed entry member).1, (sound.placed entry member).2⟩
      · intro empty
        rw [empty] at valid
        cases valid
      · -- One character counts both as white space and as a letter of names.
        have char := Token.isVarChar_of_isVarName valid c inside
        refine Bool.eq_false_iff.mpr fun blank => unspaced entry member ?_
        rwa [← (Token.isBlank_iff_of_isNameChar (Token.isNameChar_of_isVarChar char)).mp blank]
    obtain ⟨depth, passed⟩ := scan_printFrom 0 clear
    have read : scan (Event.queryText out).toList = captured.entries := by
      rw [Event.queryText, String.toList_ofList, same, passed, scan_notes legible]
    rw [ofQueryText, read, ofEntries_of_nodup sound.distinct]

def captioned (name : String) : List Event :=
  let page : Node := { term := .iri "p:page" }
  let caption : Node := { term := .plain ("?" ++ name), origin := some "/1 2" }
  [.startSubject page, .triple ⟨page, { term := .iri "p:caption" }, caption, false⟩, .endSubject page]

/-- The origin of `?title` is read back. That of a variable with white space in its name is not. -/
theorem ofQueryText_captioned :
    let document (name : String) := [.startDocument] ++ captioned name ++ [.endDocument]
    let captured (name : String) := (Compilation.ofEvents {} (document name)).origins
    (∃ out, compile {} (document "title") = .ok out ∧ captured "title" = ⟨[("title", "/1 2")]⟩ ∧
      ofQueryText (Event.queryText out) = captured "title") ∧
    ∃ out, compile {} (document "a\u1680b") = .ok out ∧ captured "a\u1680b" = ⟨[("a\u1680b", "/1 2")]⟩ ∧
      ofQueryText (Event.queryText out) ≠ captured "a\u1680b" := by
  intro document captured
  have titled : captured "title" = ⟨[("title", "/1 2")]⟩ := by decide +kernel
  have spaced : captured "a\u1680b" = ⟨[("a\u1680b", "/1 2")]⟩ := by decide +kernel
  have compiles : ∀ name, (Compilation.ofEvents {} (document name)).violation = none →
      ∃ out, compile {} (document name) = .ok out := by
    intro name clean
    exact ⟨(Compilation.ofEvents {} (document name)).events, by simp only [compile, clean]⟩
  obtain ⟨out, first⟩ := compiles "title" (by decide +kernel)
  obtain ⟨other, second⟩ := compiles "a\u1680b" (by decide +kernel)
  have whole := ofQueryText_compiled_iff (by decide) (by decide) (by decide) (by decide +kernel) first
  have partly := ofQueryText_compiled_iff (by decide) (by decide) (by decide) (by decide +kernel) second
  refine ⟨⟨out, first, titled, whole.mpr ?_⟩, other, second, spaced, fun same => ?_⟩
  · rw [show (Compilation.ofEvents {} (document "title")).origins = _ from titled]
    decide
  · have unspaced := partly.mp same
    rw [show (Compilation.ofEvents {} (document "a\u1680b")).origins = _ from spaced] at unspaced
    exact absurd unspaced (by decide)

end TemplateQuery
