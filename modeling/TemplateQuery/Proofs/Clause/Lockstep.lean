import TemplateQuery.Proofs.Clause.Accounting

/-! Two compilations of one document under different layouts go in step: they give the same names, write the same
patterns and fail at the same place. The layout decides when a compilation looks ahead, so a look must neither give a
name nor meet a violation. It gives none by itself, and it meets none because every triple that it can see was looked at
when its subject opened. Main statement: `compile_agrees`. -/

set_option autoImplicit false

namespace TemplateQuery

/-! ## A look ahead meets no violation -/

/-- Every name given to a resource can be the name of a variable. -/
def Naming.Sound (n : Naming) : Prop :=
  ∀ key name, n.registry.lookup key = some name → Token.isVarName ("_" ++ name).toList = true

def Term.isNamable (t : Term) : Bool :=
  match t.role with
  | .pinned name | .named name => Token.isVarName name.toList
  | _ => true

namespace Naming

variable {n n' : Naming}

theorem Sound.resolve {node : Node} {triple? : Option Triple} {record : Bool} {t : Term} (sound : n.Sound)
    (found : n.resolve node triple? record = (.ok t, n')) : n'.Sound := by
  rcases resolve_ok found with ⟨-, -, rfl⟩ | ⟨name, registry, wanted, asked, -, valid, rfl⟩
  · exact sound
  · intro key given known
    rw [capture_registry] at known
    -- A name that was not known before was just accepted.
    rcases lookup_asked? asked known with before | rfl
    · exact sound key given before
    · exact valid

theorem Sound.pattern {t : Triple} {p : Pattern} (sound : n.Sound) (found : n.pattern t = (.ok p, n')) : n'.Sound := by
  obtain ⟨_, _, _, first, second, -⟩ := pattern_ok found
  exact (sound.resolve first).resolve second

theorem isNamable_of_isOptional {t : Triple} {b : Bool} (found : n.isOptional t = .ok b) :
    t.partner.term.isNamable = true := by
  unfold Naming.isOptional at found
  rw [resolve_alone] at found
  unfold Term.isNamable
  cases role : t.partner.term.role with
  | pinned name | named name =>
    simp only [spelling, role] at found
    cases outcome : Term.variable name with
    | error v => rw [outcome] at found; cases found
    | ok u => exact Term.variable_eq_ok_iff.mp ⟨u, outcome⟩
  | itself | hole | resource key => rfl

theorem Sound.isOptional {t : Triple} (sound : n.Sound) (namable : t.partner.term.isNamable = true) :
    ∃ b, n.isOptional t = .ok b := by
  suffices resolved : ∃ u, (n.resolve t.partner none false).1 = .ok u by
    obtain ⟨u, resolved⟩ := resolved
    exact ⟨u.isVar, by rw [Naming.isOptional, resolved]; rfl⟩
  rw [resolve_alone, spelling]
  unfold Term.isNamable at namable
  cases role : t.partner.term.role with
  | itself => exact ⟨_, rfl⟩
  | pinned name => rw [role] at namable; exact Term.variable_eq_ok_iff.mpr namable
  | named name => rw [role] at namable; exact Term.variable_eq_ok_iff.mpr namable
  | hole => exact Term.variable_eq_ok_iff.mpr (show Token.isVarName "_".toList = true by decide)
  | resource key =>
    apply Term.variable_eq_ok_iff.mpr
    cases known : n.registry.lookup key with
    | none => decide
    | some name => exact sound key name known

theorem Sound.alone {ahead : List Event} (sound : n.Sound)
    (namable : ∀ t ∈ Ahead.ownTriples 0 ahead, t.partner.term.isNamable = true) : ∃ b, n.alone ahead = .ok b := by
  fun_induction Naming.alone n ahead with
  | case1 => exact ⟨_, rfl⟩
  | case2 => exact ⟨_, rfl⟩
  | case3 => exact ⟨_, rfl⟩
  | case4 t rest v failed =>
    obtain ⟨b, found⟩ := sound.isOptional (namable t (by simp [Ahead.ownTriples]))
    rw [failed] at found
    cases found
  | case5 => exact ⟨_, rfl⟩
  | case6 t rest _ ih => exact ih fun u member => namable u (by simp [Ahead.ownTriples, member])
  | case7 e rest noStart noEnd noTriple ih =>
    apply ih
    rwa [Ahead.ownTriples] at namable
    all_goals grind

end Naming

/-- The triples still to come in the subjects that are open can all be looked at. -/
def Checked (depth : Nat) (ahead : List Event) : Prop :=
  ∀ outer < depth, ∀ t ∈ Ahead.ownTriples outer ahead, t.partner.term.isNamable = true

namespace Checked

variable {depth : Nat} {rest : List Event}

theorem startSubject {node : Node} (checked : Checked depth (.startSubject node :: rest))
    (own : ∀ t ∈ Ahead.ownTriples 0 rest, t.partner.term.isNamable = true) : Checked (depth + 1) rest := by
  intro outer inside t member
  cases outer with
  | zero => exact own t member
  | succ outer => exact checked outer (by omega) t (by simpa [Ahead.ownTriples] using member)

theorem endSubject {node : Node} (checked : Checked (depth + 1) (.endSubject node :: rest)) : Checked depth rest := by
  intro outer inside t member
  exact checked (outer + 1) (by omega) t (by simpa [Ahead.ownTriples] using member)

theorem triple {t : Triple} (checked : Checked depth (.triple t :: rest)) : Checked depth rest := by
  intro outer inside u member
  refine checked outer inside u ?_
  cases outer with
  | zero => simp [Ahead.ownTriples, member]
  | succ outer => simpa [Ahead.ownTriples] using member

end Checked

/-! ## Two sessions in step -/

structure InStep (s₁ s₂ : Session) : Prop where
  naming : s₁.naming = s₂.naming
  wrote : patterns s₁.output = patterns s₂.output

theorem InStep.silent {s₁ s₂ s₁' s₂' : Session} (same : InStep s₁ s₂) (first : Silent s₁ s₁') (second : Silent s₂ s₂') :
    InStep s₁' s₂' :=
  ⟨by rw [first.naming, second.naming, same.naming], by rw [first.unwritten, second.unwritten, same.wrote]⟩

theorem InStep.named {s₁ s₂ : Session} (same : InStep s₁ s₂) (n : Naming) :
    InStep { s₁ with naming := n } { s₂ with naming := n } := ⟨rfl, same.wrote⟩

theorem InStep.writes {s₁ s₂ s₁' s₂' : Session} {p : Pattern} (same : InStep s₁ s₂) (first : Writes s₁ p s₁')
    (second : Writes s₂ p s₂') : InStep s₁' s₂' :=
  ⟨by rw [first.naming, second.naming, same.naming], by rw [first.wrote, second.wrote, same.wrote]⟩

/-- Two steps with the same outcome and sessions in step after them. -/
structure Alike (r₁ r₂ : Except Violation Unit × Session) : Prop where
  outcome : r₁.1 = r₂.1
  sessions : InStep r₁.2 r₂.2

namespace Compile

variable (layout₁ layout₂ : Layout) {s₁ s₂ : Session}

theorem require_alike (t : Triple) (same : InStep s₁ s₂) : Alike (require layout₁ t s₁) (require layout₂ t s₂) := by
  rw [require_run, require_run, ← same.naming]
  rcases s₁.naming.isOptional t with v | _ | _
  · exact ⟨rfl, same⟩
  · rcases s₁.naming.pattern t with ⟨v | p, n⟩
    · exact ⟨rfl, same.named n⟩
    · exact ⟨rfl, (same.named n).writes (.join layout₁ p _) (.join layout₂ p _)⟩
  · exact ⟨rfl, same⟩

theorem statement_alike (ahead? : Option (List Event)) (t : Triple) (same : InStep s₁ s₂) (sound : s₁.naming.Sound)
    (namable : ∀ ahead ∈ ahead?, ∀ u ∈ Ahead.ownTriples 0 ahead, u.partner.term.isNamable = true) :
    Alike (statement layout₁ ahead? t s₁) (statement layout₂ ahead? t s₂) := by
  -- The layouts may differ in whether they look ahead here, but a look has an answer, and no answer changes what is
  -- written.
  rw [statement_run, statement_run, ← same.naming]
  split
  · exact ⟨rfl, same⟩
  cases found : s₁.naming.pattern t with
  | mk outcome n =>
    cases outcome with
    | error v => exact ⟨rfl, same.named n⟩
    | ok p =>
      simp only
      rcases n.isOptional t with v | _ | _
      · exact ⟨rfl, same.named n⟩
      · exact ⟨rfl, (same.named n).silent (.settle layout₁ _) (.settle layout₂ _)⟩
      · -- What a look sees was looked at when the subject opened, and the names given since change no answer.
        have answered : ∀ s : Session, s.naming = n →
            ∃ lone, (if s.first then ahead?.elim (.ok false) s.naming.alone else .ok false) = .ok lone := by
          rintro s rfl
          split
          · cases ahead? with
            | none => exact ⟨false, rfl⟩
            | some ahead => exact (sound.pattern found).alone (namable ahead rfl)
          · exact ⟨false, rfl⟩
        have ready₁ := Silent.ready layout₁ { s₁ with naming := n }
        have ready₂ := Silent.ready layout₂ { s₂ with naming := n }
        obtain ⟨lone₁, look₁⟩ := answered _ ready₁.naming
        obtain ⟨lone₂, look₂⟩ := answered _ ready₂.naming
        simp only [look₁, look₂]
        exact ⟨rfl, (same.named n).writes (.after ready₁ (.place layout₁ lone₁ p _))
          (.after ready₂ (.place layout₂ lone₂ p _))⟩

theorem require_sound {layout : Layout} {t : Triple} {s s' : Session} (sound : s.naming.Sound)
    (ran : require layout t s = (.ok (), s')) : s'.naming.Sound ∧ t.partner.term.isNamable = true := by
  rcases require_ok ran with ⟨optional, rfl⟩ | ⟨p, n, required, found, rfl⟩
  · exact ⟨sound, Naming.isNamable_of_isOptional optional⟩
  · rw [(Writes.join layout p _).naming]
    exact ⟨sound.pattern found, Naming.isNamable_of_isOptional required⟩

theorem statement_sound {layout : Layout} {ahead? : Option (List Event)} {t : Triple} {s s' : Session}
    (sound : s.naming.Sound) (ran : statement layout ahead? t s = (.ok (), s')) : s'.naming.Sound := by
  rcases statement_ok ran with ⟨-, rfl⟩ | ⟨p, n, -, found, ⟨-, rfl⟩ | ⟨lone, -, -, rfl⟩⟩
  · exact sound
  · rw [(Silent.settle layout _).naming]
    exact sound.pattern found
  · rw [(Writes.place layout lone p _).naming, (Silent.ready layout _).naming]
    exact sound.pattern found

theorem forM_alike {f₁ f₂ : Triple → Compile Unit} (ts : List Triple) {s₁ s₂ : Session}
    (each : ∀ t ∈ ts, ∀ s₁ s₂, InStep s₁ s₂ → s₁.naming.Sound →
      Alike (f₁ t s₁) (f₂ t s₂) ∧ ∀ s', f₁ t s₁ = (.ok (), s') → s'.naming.Sound)
    (same : InStep s₁ s₂) (sound : s₁.naming.Sound) :
    Alike (ts.forM f₁ s₁) (ts.forM f₂ s₂) ∧ ∀ s', ts.forM f₁ s₁ = (.ok (), s') → s'.naming.Sound := by
  induction ts generalizing s₁ s₂ with
  | nil => exact ⟨⟨rfl, same⟩, by rintro s' ⟨⟩; exact sound⟩
  | cons t ts ih =>
    obtain ⟨⟨outcome, sessions⟩, later⟩ := each t List.mem_cons_self s₁ s₂ same sound
    rw [forM_cons_run, forM_cons_run]
    cases first : f₁ t s₁ with
    | mk r₁ mid₁ =>
      cases second : f₂ t s₂ with
      | mk r₂ mid₂ =>
        rw [first, second] at outcome sessions
        subst outcome
        cases r₁ with
        | error v => exact ⟨⟨rfl, sessions⟩, by rintro s' ⟨⟩⟩
        | ok _ => exact ih (fun u member => each u (List.mem_cons_of_mem t member)) sessions (later mid₁ first)

theorem forM_require_namable {layout : Layout} {ts : List Triple} {s s' : Session} (sound : s.naming.Sound)
    (ran : ts.forM (require layout) s = (.ok (), s')) : ∀ t ∈ ts, t.partner.term.isNamable = true := by
  induction ts generalizing s with
  | nil => simp
  | cons t ts ih =>
    obtain ⟨mid, first, later⟩ := forM_cons_ok ran
    obtain ⟨kept, namable⟩ := require_sound sound first
    exact List.forall_mem_cons.mpr ⟨namable, ih kept later⟩

theorem startSubject_alike (node : Node) (ahead : List Event) (same : InStep s₁ s₂) (sound : s₁.naming.Sound) :
    Alike (startSubject layout₁ node ahead s₁) (startSubject layout₂ node ahead s₂) ∧
      ∀ s', startSubject layout₁ node ahead s₁ = (.ok (), s') →
        s'.naming.Sound ∧ ∀ t ∈ Ahead.ownTriples 0 ahead, t.partner.term.isNamable = true := by
  rw [startSubject_run, startSubject_run, ← same.naming]
  cases found : s₁.naming.resolve node none true with
  | mk outcome n =>
    cases outcome with
    | error v => exact ⟨⟨rfl, same.named n⟩, by rintro s' ⟨⟩⟩
    | ok subject =>
      simp only
      have opened := (same.named n).silent (.openSubject layout₁ subject _) (.openSubject layout₂ subject _)
      have named : (({ s₁ with naming := n } : Session).openSubject layout₁ subject).naming.Sound := by
        rw [(Silent.openSubject layout₁ subject _).naming]
        exact sound.resolve found
      generalize ({ s₁ with naming := n } : Session).openSubject layout₁ subject = t₁ at opened named ⊢
      generalize ({ s₂ with naming := n } : Session).openSubject layout₂ subject = t₂ at opened ⊢
      obtain ⟨⟨agree, sessions⟩, later⟩ := forM_alike (Ahead.ownTriples 0 ahead)
        (fun t _ s₁ s₂ same sound => ⟨require_alike layout₁ layout₂ t same,
          fun s' ran => (require_sound sound ran).1⟩) opened named
      cases first : (Ahead.ownTriples 0 ahead).forM (require layout₁) t₁ with
      | mk r₁ mid₁ =>
        cases second : (Ahead.ownTriples 0 ahead).forM (require layout₂) t₂ with
        | mk r₂ mid₂ =>
          rw [first, second] at agree sessions
          subst agree
          cases r₁ with
          | error v => exact ⟨⟨rfl, sessions⟩, by rintro s' ⟨⟩⟩
          | ok _ =>
            simp only
            -- All own triples have been looked at by now, so a further look ahead has an answer under either layout.
            have known := forM_require_namable named first
            have middle := later mid₁ first
            have answered : ∀ (b : Bool) (s : Session), s.naming = mid₁.naming →
                ∃ lone, (if b then s.naming.alone ahead else .ok true) = .ok lone := by
              intro b s naming
              cases b with
              | false => exact ⟨true, rfl⟩
              | true => rw [naming]; exact middle.alone known
            obtain ⟨lone₁, look₁⟩ := answered (!mid₁.inUnion && mid₁.chained subject) mid₁ rfl
            obtain ⟨lone₂, look₂⟩ := answered (!mid₂.inUnion && mid₂.chained subject) mid₂ sessions.naming.symm
            simp only [look₁, look₂]
            have room := sessions.silent (.room layout₁ lone₁ mid₁) (.room layout₂ lone₂ mid₂)
            have roomSound := (Silent.room layout₁ lone₁ mid₁).naming ▸ middle
            obtain ⟨alike, final⟩ := forM_alike (Ahead.enclosing 0 none ahead)
              (fun t _ s₁ s₂ same sound => ⟨statement_alike layout₁ layout₂ none t same sound (by simp),
                fun s' ran => statement_sound sound ran⟩) room roomSound
            exact ⟨alike, fun s' ran => ⟨final s' ran, known⟩⟩

end Compile

/-! ## Two compilations in step -/

theorem step_alike (layout₁ layout₂ : Layout) {s₁ s₂ : Session} {e : Event} {rest : List Event} {depth : Nat}
    (nested : nestedFrom depth (e :: rest) = true) (checked : Checked depth (e :: rest)) (same : InStep s₁ s₂)
    (sound : s₁.naming.Sound) :
    Alike (Compile.step layout₁ rest e s₁) (Compile.step layout₂ rest e s₂) ∧
      ∀ s', Compile.step layout₁ rest e s₁ = (.ok (), s') →
        s'.naming.Sound ∧ ∃ depth', nestedFrom depth' rest = true ∧ Checked depth' rest := by
  cases e with
  | startDocument =>
    refine ⟨⟨rfl, same.silent (.startDocument layout₁ rest s₁) (.startDocument layout₂ rest s₂)⟩, ?_⟩
    rintro s' ⟨⟩
    exact ⟨sound, depth, by simpa [nestedFrom] using nested, by simpa [Checked, Ahead.ownTriples] using checked⟩
  | endDocument =>
    refine ⟨⟨rfl, same.silent (.endDocument layout₁ s₁) (.endDocument layout₂ s₂)⟩, ?_⟩
    rintro s' ⟨⟩
    exact ⟨(Silent.endDocument layout₁ s₁).naming ▸ sound, depth, by simpa [nestedFrom] using nested,
      by simpa [Checked, Ahead.ownTriples] using checked⟩
  | startSubject node =>
    obtain ⟨alike, later⟩ := Compile.startSubject_alike layout₁ layout₂ node rest same sound
    refine ⟨alike, fun s' ran => ?_⟩
    obtain ⟨sound', own⟩ := later s' ran
    exact ⟨sound', depth + 1, nested, checked.startSubject own⟩
  | triple t =>
    cases depth with
    | zero => cases nested
    | succ depth =>
      have own : ∀ ahead ∈ some rest, ∀ u ∈ Ahead.ownTriples 0 ahead, u.partner.term.isNamable = true := by
        rintro ahead ⟨⟩ u member
        exact checked.triple 0 (by omega) u member
      exact ⟨Compile.statement_alike layout₁ layout₂ (some rest) t same sound own, fun s' ran =>
        ⟨Compile.statement_sound sound ran, depth + 1, nested, checked.triple⟩⟩
  | endSubject node =>
    cases depth with
    | zero => cases nested
    | succ depth =>
      have closed : ∀ (layout : Layout) (s : Session), Silent s (s.leaveSubject layout) :=
        fun layout s => .leaveTimes layout _ s
      refine ⟨⟨rfl, same.silent (closed layout₁ s₁) (closed layout₂ s₂)⟩, ?_⟩
      rintro s' ⟨⟩
      exact ⟨(closed layout₁ s₁).naming ▸ sound, depth, nested, checked.endSubject⟩
  | base _ | declare _ _ | startGraph _ | endGraph _ | pattern _ | comment _ | select | ask | whereBlock _ | optional _
  | group _ | union | orderBy _ =>
    refine ⟨⟨rfl, same⟩, ?_⟩
    rintro s' ⟨⟩
    exact ⟨sound, depth, by simpa [nestedFrom] using nested, by simpa [Checked, Ahead.ownTriples] using checked⟩

theorem ofSession_agrees (layout₁ layout₂ : Layout) {s₁ s₂ : Session} {events : List Event} {depth : Nat}
    (nested : nestedFrom depth events = true) (checked : Checked depth events) (same : s₁.naming = s₂.naming)
    (sound : s₁.naming.Sound) :
    let c₁ := Compilation.ofSession layout₁ s₁ events
    let c₂ := Compilation.ofSession layout₂ s₂ events
    c₁.violation = c₂.violation ∧ c₁.origins = c₂.origins ∧ patterns c₁.events = patterns c₂.events := by
  induction events generalizing s₁ s₂ depth with
  | nil => simp [Compilation.ofSession, same, Compilation.events]
  | cons e rest ih =>
    have start : InStep { s₁ with output := [] } { s₂ with output := [] } := ⟨same, rfl⟩
    obtain ⟨⟨outcome, sessions⟩, later⟩ := step_alike layout₁ layout₂ nested checked start sound
    cases first : Compile.step layout₁ rest e { s₁ with output := [] } with
    | mk r₁ t₁ =>
      cases second : Compile.step layout₂ rest e { s₂ with output := [] } with
      | mk r₂ t₂ =>
        rw [first, second] at outcome sessions
        subst outcome
        cases r₁ with
        | error v =>
          have naming : t₁.naming = t₂.naming := sessions.naming
          simp [Compilation.ofSession, first, second, naming, Compilation.events]
        | ok _ =>
          obtain ⟨sound', depth', nested', checked'⟩ := later t₁ first
          obtain ⟨violation, origins, wrote⟩ := ih nested' checked' sessions.naming sound'
          simp only [Compilation.ofSession, first, second, Compilation.events, List.map_append, List.map_map,
            Function.comp_def, List.map_id', patterns_append] at violation origins wrote ⊢
          exact ⟨violation, origins, by rw [sessions.wrote, wrote]⟩

/-- Whatever the form of the query around the patterns and of the alternatives in it, a document compiles to the same
patterns and the same origins, or fails with the same violation. -/
theorem compile_agrees (layout₁ layout₂ : Layout) {body : List Event} (nested : nestedFrom 0 body = true) :
    let document := [.startDocument] ++ body ++ [.endDocument]
    (∃ v, compile layout₁ document = .error v ∧ compile layout₂ document = .error v) ∨
    ∃ out₁ out₂, compile layout₁ document = .ok out₁ ∧ compile layout₂ document = .ok out₂ ∧
      patterns out₁ = patterns out₂ ∧
      (Compilation.ofEvents layout₁ document).origins = (Compilation.ofEvents layout₂ document).origins := by
  intro document
  have whole : nestedFrom 0 document = true := by
    rw [← nested]
    exact nestedFrom_endDocument 0 body
  have sound : ({} : Session).naming.Sound := fun key name known => by cases known
  obtain ⟨violation, origins, wrote⟩ :=
    ofSession_agrees layout₁ layout₂ whole (fun outer inside => by omega) (Eq.refl ({} : Session).naming) sound
  cases met : (Compilation.ofEvents layout₂ document).violation with
  | some v =>
    refine .inl ⟨v, ?_, ?_⟩
    · simp [compile, Compilation.ofEvents, violation.trans met]
    · simp [compile, met]
  | none =>
    refine .inr ⟨(Compilation.ofEvents layout₁ document).events, (Compilation.ofEvents layout₂ document).events, ?_, ?_,
      wrote, origins⟩
    · simp [compile, Compilation.ofEvents, violation.trans met]
    · simp [compile, met]

/-- The page with a title, once as alternatives of a selection and once as nested options of a question. -/
theorem compile_agrees_titledPage :
    let document := [.startDocument] ++ titledPage "?n" ++ [.endDocument]
    ∃ out₁ out₂, compile {} document = .ok out₁ ∧ compile { shape := .ask, unionForm := false } document = .ok out₂ ∧
      patterns out₁ = patterns out₂ ∧ out₁.length ≠ out₂.length ∧
      (Compilation.ofEvents {} document).origins =
        (Compilation.ofEvents { shape := .ask, unionForm := false } document).origins := by
  intro document
  have apart : (compile {} document).map List.length ≠
      (compile { shape := .ask, unionForm := false } document).map List.length := by decide +kernel
  have fine : (compile {} document).isOk = true := by decide +kernel
  have nested : nestedFrom 0 (titledPage "?n") = true := by decide
  rcases compile_agrees {} { shape := .ask, unionForm := false } nested with
    ⟨v, failed, -⟩ | ⟨out₁, out₂, first, second, wrote, origins⟩
  · rw [show compile {} document = .error v from failed] at fine
    cases fine
  · refine ⟨out₁, out₂, first, second, wrote, fun equal => apart ?_, origins⟩
    rw [show compile {} document = .ok out₁ from first,
      show compile { shape := .ask, unionForm := false } document = .ok out₂ from second]
    simp [Except.map, equal]

end TemplateQuery
