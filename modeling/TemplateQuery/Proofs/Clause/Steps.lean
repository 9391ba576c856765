import TemplateQuery.Clause.Compiler
import TemplateQuery.Proofs.Naming.Resolving

/-! What each step of clause compilation does to the session, as plain functions on it.

The monadic steps are run once here, and for each the ways it can succeed are said once; the modules above
reason about these only.
-/

set_option autoImplicit false

namespace TemplateQuery

namespace Naming

def pattern (n : Naming) (t : Triple) : Except Violation Pattern × Naming :=
  match n.resolve t.subject (some t) true with
  | (.error v, n) => (.error v, n)
  | (.ok subject, n) =>
    match n.resolve t.object (some t) true with
    | (.error v, n) => (.error v, n)
    | (.ok object, n) => (.ok { subject, predicate := t.predicate.term, object, inverse := t.inverse }, n)

theorem pattern_ok {n n' : Naming} {t : Triple} {p : Pattern} (found : n.pattern t = (.ok p, n')) :
    ∃ subject mid object, n.resolve t.subject (some t) true = (.ok subject, mid) ∧
      mid.resolve t.object (some t) true = (.ok object, n') ∧
      p = { subject, predicate := t.predicate.term, object, inverse := t.inverse } := by
  unfold pattern at found
  split at found
  · cases found
  next subject mid first =>
  split at found
  · cases found
  next object last second =>
  cases found
  exact ⟨subject, mid, object, first, second, rfl⟩

def alone (n : Naming) : List Event → Except Violation Bool
  | [] => .ok true
  | .startSubject _ :: _ => .ok false
  | .endSubject _ :: _ => .ok true
  | .triple t :: rest =>
    match n.isOptional t with
    | .error v => .error v
    | .ok true => .ok false
    | .ok false => n.alone rest
  | _ :: rest => n.alone rest

end Naming

namespace Session

def settle (layout : Layout) (s : Session) : Session :=
  let s := s.anchor
  if s.dangling && !s.first then s.leave layout else s

/-- Where an optional triple goes: next to other alternatives, or into an optional clause of its own. -/
def ready (layout : Layout) (s : Session) : Session :=
  let s := s.settle layout
  if !s.inUnion && layout.unionForm then s.enter layout .optional none else s

def place (layout : Layout) (lone : Bool) (p : Pattern) (s : Session) : Session :=
  { (if lone && s.inOptional then s else s.enter layout .group none).write p with first := false }

def join (layout : Layout) (p : Pattern) (s : Session) : Session :=
  (if s.inUnion then s.enter layout .group none else s).write p

def openSubject (layout : Layout) (subject : Term) (s : Session) : Session :=
  let s := s.anchor
  (if s.dangling && !s.chained subject then s.leave layout else s).enter layout .block (some subject)

end Session

namespace Compile

theorem bind_run {α β : Type} (x : Compile α) (f : α → Compile β) (s : Session) :
    (x >>= f) s = match x s with
      | (.ok a, s) => f a s
      | (.error v, s) => (.error v, s) := by
  show ExceptT.bind x f s = _
  unfold ExceptT.bind ExceptT.bindCont
  show (do let a ← x; _ : StateM Session _) s = _
  rcases h : x s with ⟨a | a, s'⟩
  · simp [bind, StateT.bind, h]
    rfl
  · simp [bind, StateT.bind, h]

theorem modify_run (f : Session → Session) (s : Session) : (modify f : Compile Unit) s = (.ok (), f s) := rfl

theorem get_run (s : Session) : (get : Compile Session) s = (.ok s, s) := rfl

theorem pattern_run (t : Triple) (s : Session) :
    pattern t s = ((s.naming.pattern t).1, { s with naming := (s.naming.pattern t).2 }) := by
  unfold pattern Naming.pattern
  simp only [bind_run, resolve]
  rcases s.naming.resolve t.subject (some t) true with ⟨v | subject, n⟩
  · rfl
  · simp only
    rcases n.resolve t.object (some t) true with ⟨v | object, m⟩
    · rfl
    · rfl

theorem alone_run (ahead : List Event) (s : Session) : alone ahead s = (s.naming.alone ahead, s) := by
  fun_induction alone ahead with
  | case1 => rfl
  | case2 => rfl
  | case3 => rfl
  | case4 t rest ih =>
    simp only [bind_run, isOptional, Naming.alone]
    rcases s.naming.isOptional t with v | _ | _
    · rfl
    · exact ih
    · rfl
  | case5 e rest _ _ _ ih =>
    rw [ih, Naming.alone]
    all_goals assumption

theorem require_run (layout : Layout) (t : Triple) (s : Session) :
    require layout t s =
      match s.naming.isOptional t with
      | .error v => (.error v, s)
      | .ok true => (.ok (), s)
      | .ok false =>
        match s.naming.pattern t with
        | (.error v, n) => (.error v, { s with naming := n })
        | (.ok p, n) => (.ok (), { s with naming := n }.join layout p) := by
  unfold require
  simp only [bind_run, isOptional]
  rcases s.naming.isOptional t with v | _ | _
  · rfl
  · simp only [Bool.false_eq_true, ↓reduceIte, bind_run, pattern_run]
    rcases s.naming.pattern t with ⟨v | p, n⟩ <;> rfl
  · rfl

theorem require_ok {layout : Layout} {t : Triple} {s s' : Session} (ran : require layout t s = (.ok (), s')) :
    s.naming.isOptional t = .ok true ∧ s' = s ∨
    ∃ p n, s.naming.isOptional t = .ok false ∧ s.naming.pattern t = (.ok p, n) ∧
      s' = { s with naming := n }.join layout p := by
  rw [require_run] at ran
  split at ran
  · cases ran
  · next optional => cases ran; exact .inl ⟨optional, rfl⟩
  next required =>
  split at ran
  · cases ran
  next p n found =>
  cases ran
  exact .inr ⟨p, n, required, found, rfl⟩

theorem statement_run (layout : Layout) (ahead? : Option (List Event)) (t : Triple) (s : Session) :
    statement layout ahead? t s =
      if s.naming.isPromoted t then (.ok (), s)
      else
        match s.naming.pattern t with
        | (.error v, n) => (.error v, { s with naming := n })
        | (.ok p, n) =>
          match n.isOptional t with
          | .error v => (.error v, { s with naming := n })
          | .ok false => (.ok (), { s with naming := n }.settle layout)
          | .ok true =>
            let s := { s with naming := n }.ready layout
            match if s.first then ahead?.elim (.ok false) s.naming.alone else .ok false with
            | .error v => (.error v, s)
            | .ok lone => (.ok (), s.place layout lone p) := by
  unfold statement
  rw [bind_run, get_run]
  by_cases promoted : s.naming.isPromoted t = true
  · simp only [promoted, ↓reduceIte]
    rfl
  · simp only [promoted, Bool.false_eq_true, ↓reduceIte, bind_run, pattern_run]
    rcases s.naming.pattern t with ⟨v | p, n⟩
    · rfl
    · simp only [isOptional]
      rcases n.isOptional t with v | _ | _
      · rfl
      · rfl
      · simp only [modify_run, ↓reduceIte, bind_run, get_run]
        -- From here on only the session with room made for the pattern matters.
        change (if ({ s with naming := n }.ready layout).first = true then _ else _ : Compile Unit)
          ({ s with naming := n }.ready layout) = _
        generalize { s with naming := n }.ready layout = s
        by_cases first : s.first = true
        · simp only [first, ↓reduceIte, bind_run]
          cases ahead? with
          | none => rfl
          | some ahead =>
            simp only [Option.elim_some, alone_run]
            rcases s.naming.alone ahead with v | lone <;> rfl
        · simp only [first]
          rfl

/-- A triple is one whose object is captured already, a required one that was written when its subject opened, or an
optional one that gets its place now. -/
theorem statement_ok {layout : Layout} {ahead? : Option (List Event)} {t : Triple} {s s' : Session}
    (ran : statement layout ahead? t s = (.ok (), s')) :
    s.naming.isPromoted t = true ∧ s' = s ∨
    ∃ p n, s.naming.isPromoted t = false ∧ s.naming.pattern t = (.ok p, n) ∧
      (n.isOptional t = .ok false ∧ s' = { s with naming := n }.settle layout ∨
      ∃ lone, n.isOptional t = .ok true ∧
        (if ({ s with naming := n }.ready layout).first then
          ahead?.elim (.ok false) ({ s with naming := n }.ready layout).naming.alone else .ok false) = .ok lone ∧
        s' = ({ s with naming := n }.ready layout).place layout lone p) := by
  rw [statement_run] at ran
  split at ran
  · next promoted => cases ran; exact .inl ⟨promoted, rfl⟩
  next promoted =>
  split at ran
  · cases ran
  next p n found =>
  refine .inr ⟨p, n, Bool.eq_false_iff.mpr promoted, found, ?_⟩
  split at ran
  · cases ran
  · next required => cases ran; exact .inl ⟨required, rfl⟩
  next optional =>
  simp only at ran
  split at ran
  · cases ran
  next lone looked =>
  cases ran
  exact .inr ⟨lone, optional, looked, rfl⟩

theorem forM_cons_run {α : Type} (x : α) (xs : List α) (f : α → Compile Unit) (s : Session) :
    (x :: xs).forM f s = match f x s with
      | (.ok _, s) => xs.forM f s
      | (.error v, s) => (.error v, s) := by
  show (f x >>= fun _ => xs.forM f) s = _
  rw [bind_run]
  rcases f x s with ⟨v | _, s⟩ <;> rfl

theorem forM_cons_ok {α : Type} {x : α} {xs : List α} {f : α → Compile Unit} {s s' : Session}
    (ran : (x :: xs).forM f s = (.ok (), s')) :
    ∃ mid, f x s = (.ok (), mid) ∧ xs.forM f mid = (.ok (), s') := by
  rw [forM_cons_run] at ran
  split at ran
  · next mid first => exact ⟨mid, first, ran⟩
  · cases ran

theorem forM_keeps {α : Type} {P : Session → Prop} {f : α → Compile Unit} {xs : List α} {s s' : Session}
    (each : ∀ x ∈ xs, ∀ s s', P s → f x s = (.ok (), s') → P s') (start : P s) (ran : xs.forM f s = (.ok (), s')) :
    P s' := by
  induction xs generalizing s with
  | nil => cases ran; exact start
  | cons x xs ih =>
    obtain ⟨mid, first, later⟩ := forM_cons_ok ran
    have next := each x List.mem_cons_self s mid start first
    exact ih (fun y member => each y (List.mem_cons_of_mem x member)) next later

theorem startSubject_run (layout : Layout) (node : Node) (ahead : List Event) (s : Session) :
    startSubject layout node ahead s =
      match s.naming.resolve node none true with
      | (.error v, n) => (.error v, { s with naming := n })
      | (.ok subject, n) =>
        match (Ahead.ownTriples 0 ahead).forM (require layout) ({ s with naming := n }.openSubject layout subject) with
        | (.error v, s) => (.error v, s)
        | (.ok _, s) =>
          match if !s.inUnion && s.chained subject then s.naming.alone ahead else .ok true with
          | .error v => (.error v, s)
          | .ok lone =>
            (Ahead.enclosing 0 none ahead).forM (statement layout none)
              { (if lone then s else s.enter layout .optional none) with previous := none } := by
  unfold startSubject
  simp only [bind_run, resolve]
  rcases s.naming.resolve node none true with ⟨v | subject, n⟩
  · rfl
  · simp only [modify_run, Session.openSubject]
    generalize (Ahead.ownTriples 0 ahead).forM (require layout) _ = outcome
    rcases outcome with ⟨v | _, s⟩
    · rfl
    · simp only [get_run]
      by_cases continues : (!s.inUnion && s.chained subject) = true
      · simp only [continues, ↓reduceIte, bind_run, alone_run]
        rcases s.naming.alone ahead with v | _ | _ <;> rfl
      · simp only [continues, Bool.false_eq_true, ↓reduceIte, bind_run, modify_run]

theorem startSubject_ok {layout : Layout} {node : Node} {ahead : List Event} {s s' : Session}
    (ran : startSubject layout node ahead s = (.ok (), s')) :
    ∃ subject n joined lone, s.naming.resolve node none true = (.ok subject, n) ∧
      (Ahead.ownTriples 0 ahead).forM (require layout) ({ s with naming := n }.openSubject layout subject) =
        (.ok (), joined) ∧
      (if !joined.inUnion && joined.chained subject then joined.naming.alone ahead else .ok true) = .ok lone ∧
      (Ahead.enclosing 0 none ahead).forM (statement layout none)
        { (if lone then joined else joined.enter layout .optional none) with previous := none } = (.ok (), s') := by
  rw [startSubject_run] at ran
  split at ran
  · cases ran
  next subject n found =>
  split at ran
  · cases ran
  next joined first =>
  split at ran
  · cases ran
  next lone looked =>
  exact ⟨subject, n, joined, lone, found, first, looked, ran⟩

theorem apart_of_room {subject : Term} {ahead : List Event} {s : Session}
    (looked : (if !s.inUnion && s.chained subject then s.naming.alone ahead else .ok true) = .ok false) :
    s.inUnion = false := by
  split at looked
  · next continues => exact (by simpa using continues : s.inUnion = false ∧ _).1
  · cases looked

theorem mem_header {layout : Layout} {e : Event} (member : e ∈ header layout) :
    e = .select ∨ e = .ask ∨ e = .whereBlock .opening := by
  unfold header at member
  split at member
  · exact (List.mem_cons.mp member).imp_right fun last => .inr (List.mem_singleton.mp last)
  · exact .inr ((List.mem_cons.mp member).imp_right List.mem_singleton.mp)
  · cases member

theorem mem_footer {layout : Layout} {origins : Origins} {e : Event} (member : e ∈ footer layout origins) :
    e = .whereBlock .closing ∨ ∃ text, e = .comment text := by
  unfold footer at member
  split at member
  · cases member
  all_goals
    rcases List.mem_cons.mp member with same | note
    · exact .inl same
    · obtain ⟨text, -, rfl⟩ := List.mem_map.mp note
      exact .inr ⟨text, rfl⟩

end Compile

namespace Compilation

theorem events_ofSession_cons {layout : Layout} {s s' : Session} {e : Event} {rest : List Event}
    (ran : Compile.step layout rest e { s with output := [] } = (.ok (), s')) :
    (ofSession layout s (e :: rest)).events = s'.output ++ (ofSession layout s' rest).events := by
  rw [ofSession, ran]
  simp [events, Function.comp_def]

theorem ofSession_cons {layout : Layout} {s : Session} {e : Event} {rest : List Event}
    (clean : (ofSession layout s (e :: rest)).violation = none) :
    ∃ s', Compile.step layout rest e { s with output := [] } = (.ok (), s') ∧
      (ofSession layout s' rest).violation = none ∧
      (ofSession layout s (e :: rest)).events = s'.output ++ (ofSession layout s' rest).events := by
  rw [ofSession] at clean
  cases ran : Compile.step layout rest e { s with output := [] } with
  | mk outcome s' =>
    rw [ran] at clean
    cases outcome with
    | error v => cases clean
    | ok _ => exact ⟨s', rfl, clean, events_ofSession_cons ran⟩

theorem origins_ofSession_cons {layout : Layout} {s s' : Session} {e : Event} {rest : List Event}
    (ran : Compile.step layout rest e { s with output := [] } = (.ok (), s')) :
    (ofSession layout s (e :: rest)).origins = (ofSession layout s' rest).origins := by
  rw [ofSession, ran]

end Compilation

theorem compile_eq_ok {layout : Layout} {events out : List Event} (compiled : compile layout events = .ok out) :
    (Compilation.ofEvents layout events).violation = none ∧ (Compilation.ofEvents layout events).events = out := by
  unfold compile at compiled
  cases clean : (Compilation.ofEvents layout events).violation with
  | some v => simp [clean] at compiled
  | none =>
    simp only [clean, Except.ok.injEq] at compiled
    exact ⟨rfl, compiled⟩

end TemplateQuery
