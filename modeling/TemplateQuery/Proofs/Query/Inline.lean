import TemplateQuery.Proofs.Term.RoundTrip
import TemplateQuery.Query.Parser

/-! Inline data, read from tokens. The tokens of a table whose cells are readable are read as that table, and the names
and cells of any table that is read are such as tokens can have. -/

set_option autoImplicit false

namespace TemplateQuery

/-- Cells that hold a readable term in the form in which it is read, or nothing. -/
def Cell.Readable (cell : Option Term) : Prop := ∀ t ∈ cell, t.Readable ∧ t.canonical = t

namespace Query

open Token Tokens

variable {p : Prologue}

/-! ## The parts of a table -/

def readRow (p : Prologue) (width : Nat) (ts : Tokens) : Except ReadError (List (Option Term) × Tokens) :=
  match ts.accept? (.punct .lparen) with
  | some rest => do
    let (row, ts) ← readCells p rest.length rest
    if row.length = width then .ok (row, ts) else ts.fail (.rowWidth row.length width)
  | none =>
    if width = 1 then (readCell p ts).map fun (cell, ts) => ([cell], ts)
    else ts.fail (.expected "'('" ts.kind)

theorem readRows_succ (width fuel : Nat) (ts : Tokens) :
    readRows p width (fuel + 1) ts =
      match ts.accept? (.punct .rbrace) with
      | some rest => .ok ([], rest)
      | none => (do
        let (row, ts) ← readRow p width ts
        let (rows, ts) ← readRows p width fuel ts
        .ok (row :: rows, ts)) := by
  unfold readRow
  rw [readRows]
  cases ts.accept? (.punct .rbrace) with
  | some rest => rfl
  | none =>
    cases ts.accept? (.punct .lparen) with
    | none => by_cases single : width = 1 <;> simp only [single, ↓reduceIte]
    | some rest =>
      dsimp only
      cases readCells p rest.length rest with
      | error fault => rfl
      | ok read => by_cases fits : read.1.length = width <;> simp only [bind, Except.bind, fits, ↓reduceIte]

def readHead (ts : Tokens) : Except ReadError (List String × Tokens) :=
  match ts.accept? (.punct .lparen) with
  | some rest =>
    let (names, ts) := readNames rest.length rest
    (ts.expect (.punct .rparen) "')'").map fun ts => (names, ts)
  | none => .ok (readNames ts.length ts)

theorem readInline_eq (ts : Tokens) :
    readInline p ts =
      match (ts.accept? (.keyword .values)).or (ts.accept? (.keyword .bindings)) with
      | none => .ok (none, ts)
      | some ts => (do
        let (names, ts) ← readHead ts
        let ts ← ts.expect (.punct .lbrace) "'\x7b'"
        let (rows, ts) ← readRows p names.length ts.length ts
        .ok (some ⟨names, rows⟩, ts)) := by
  unfold readHead
  rw [readInline]
  cases (ts.accept? (.keyword .values)).or (ts.accept? (.keyword .bindings)) with
  | none => rfl
  | some start =>
    dsimp only
    cases start.accept? (.punct .lparen) <;> rfl

/-! ## The tokens of a table -/

def cellKinds (cell : Option Term) : List Kind := cell.elim [.keyword .undef] Term.writtenKinds

def rowKinds (row : List (Option Term)) : List Kind := .punct .lparen :: row.flatMap cellKinds ++ [.punct .rparen]

def rowsKinds (rows : List (List (Option Term))) (kinds : List Kind) : List Kind :=
  rows.flatMap rowKinds ++ .punct .rbrace :: kinds

def tableKinds (names : List String) (rows : List (List (Option Term))) : List Kind :=
  .keyword .bindings :: (names.map Kind.var ++ .punct .lbrace :: rowsKinds rows [.eof])

def opensCell : Kind → Bool
  | .keyword .undef | .iri _ | .blank _ | .string _ | .integer _ | .punct .minus => true
  | _ => false

theorem writtenKinds_opens {t : Term} (spelt : t.Spelt) :
    ∃ kind kinds, t.writtenKinds = kind :: kinds ∧ opensCell kind = true ∧ kind ≠ .keyword .undef := by
  cases t with
  | var name => cases spelt
  | iri i | curie label localPart i | reference relative i | blank label => exact ⟨_, _, rfl, rfl, by simp⟩
  | literal lexical tag =>
    cases tag with
    | simple | lang tag => exact ⟨_, _, rfl, rfl, by simp⟩
    | typed datatype =>
      simp only [Term.writtenKinds]
      split
      · unfold Term.intKinds
        dsimp only
        split <;> exact ⟨_, _, rfl, rfl, by simp⟩
      · exact ⟨_, _, rfl, rfl, by simp⟩

theorem cellKinds_opens {cell : Option Term} (readable : Cell.Readable cell) :
    ∃ kind kinds, cellKinds cell = kind :: kinds ∧ opensCell kind = true := by
  cases cell with
  | none => exact ⟨_, _, rfl, rfl⟩
  | some t =>
    obtain ⟨kind, kinds, same, opens, -⟩ := writtenKinds_opens (readable t rfl).1.1
    exact ⟨kind, kinds, same, opens⟩

theorem cells_start {row : List (Option Term)} (readable : ∀ cell ∈ row, Cell.Readable cell) (kinds : List Kind) :
    ∃ kind later, row.flatMap cellKinds ++ Kind.punct .rparen :: kinds = kind :: later ∧
      Term.tagsString kind = false := by
  -- What comes after a cell never continues it: the next cell or a closing parenthesis.
  cases row with
  | nil => exact ⟨_, _, rfl, rfl⟩
  | cons cell row =>
    obtain ⟨kind, later, same, opens⟩ := cellKinds_opens (readable cell List.mem_cons_self)
    refine ⟨kind, later ++ (row.flatMap cellKinds ++ Kind.punct .rparen :: kinds), by simp [same], ?_⟩
    unfold opensCell at opens
    split at opens <;> first | rfl | cases opens

theorem length_le_flatMap {α β : Type} {f : α → List β} {xs : List α} (each : ∀ x ∈ xs, f x ≠ []) :
    xs.length ≤ (xs.flatMap f).length := by
  induction xs with
  | nil => simp
  | cons x xs ih =>
    have first := List.length_pos_iff.mpr (each x List.mem_cons_self)
    have later := ih fun y member => each y (List.mem_cons_of_mem x member)
    simp only [List.flatMap_cons, List.length_append, List.length_cons]
    omega

/-! ## Reading a table back -/

def cellBack (cell : Option Term) : Option Term := cell.map Term.withCanonicalInteger

theorem readCell_of_map {ts : Tokens} {cell : Option Term} {kind : Kind} {kinds : List Kind}
    (readable : Cell.Readable cell) (ends : Term.tagsString kind = false)
    (same : ts.map Token.kind = cellKinds cell ++ kind :: kinds) :
    ∃ rest, readCell p ts = .ok (cellBack cell, rest) ∧ rest.map Token.kind = kind :: kinds := by
  cases cell with
  | none => exact ⟨ts.advance, by simp only [readCell, accept?_of_map same]; rfl, advance_of_map same (by simp)⟩
  | some t =>
    obtain ⟨readableTerm, canonical⟩ := readable t rfl
    obtain ⟨first, later, opening, -, differ⟩ := writtenKinds_opens readableTerm.1
    have front : ts.map Token.kind = first :: (later ++ kind :: kinds) := by
      rw [same]
      simp [cellKinds, opening]
    obtain ⟨rest, ran, after⟩ := Term.readConstant?_writtenKinds (p := p) readableTerm ends same
    refine ⟨rest, ?_, after⟩
    have back : cellBack (some t) = some t.readBack := by simp [cellBack, Term.readBack, canonical]
    simp only [readCell, accept?_other front differ, ran, back]
    rfl

theorem readCells_of_map {row : List (Option Term)} (readable : ∀ cell ∈ row, Cell.Readable cell) {fuel : Nat}
    {ts : Tokens} {kinds : List Kind} (enough : row.length < fuel)
    (same : ts.map Token.kind = row.flatMap cellKinds ++ Kind.punct .rparen :: kinds) :
    ∃ rest, readCells p fuel ts = .ok (row.map cellBack, rest) ∧ rest.map Token.kind = kinds := by
  induction row generalizing fuel ts with
  | nil =>
    obtain _ | fuel := fuel
    · cases enough
    · exact ⟨ts.advance, by simp only [readCells, accept?_of_map same]; rfl, advance_of_map same (by simp)⟩
  | cons cell row ih =>
    obtain _ | fuel := fuel
    · cases enough
    · obtain ⟨first, others, opening, opens⟩ := cellKinds_opens (readable cell List.mem_cons_self)
      have differ : first ≠ .punct .rparen := by rintro rfl; cases opens
      have front : ts.map Token.kind = first :: (others ++ (row.flatMap cellKinds ++ Kind.punct .rparen :: kinds)) := by
        rw [same]
        simp [opening]
      have later := fun c member => readable c (List.mem_cons_of_mem cell member)
      obtain ⟨kind, after, start, ends⟩ := cells_start later kinds
      rw [List.flatMap_cons, List.append_assoc, start] at same
      obtain ⟨middle, read, rest⟩ := readCell_of_map (p := p) (readable cell List.mem_cons_self) ends same
      obtain ⟨final, reads, done⟩ := ih later (Nat.lt_of_succ_lt_succ enough) (rest.trans start.symm)
      refine ⟨final, ?_, done⟩
      simp only [readCells, accept?_other front differ, read]
      simp only [bind, Except.bind, reads]
      rfl

theorem readRow_of_map {row : List (Option Term)} {width : Nat} (readable : ∀ cell ∈ row, Cell.Readable cell)
    (wide : row.length = width) {ts : Tokens} {kinds : List Kind} (same : ts.map Token.kind = rowKinds row ++ kinds) :
    ∃ rest, readRow p width ts = .ok (row.map cellBack, rest) ∧ rest.map Token.kind = kinds := by
  have front : ts.map Token.kind = .punct .lparen :: (row.flatMap cellKinds ++ Kind.punct .rparen :: kinds) := by
    rw [same]
    simp [rowKinds]
  have inside := advance_of_map front (by simp)
  have nonempty : ∀ cell ∈ row, cellKinds cell ≠ [] := by
    intro cell member
    obtain ⟨kind, kinds, opening, -⟩ := cellKinds_opens (readable cell member)
    simp [opening]
  -- Every cell has a token and the closing parenthesis one more, so the tokens are fuel enough.
  have plenty : row.length < ts.advance.length := by
    have := length_le_flatMap nonempty
    rw [length_of_map inside]
    simp only [List.length_append, List.length_cons]
    omega
  obtain ⟨rest, read, after⟩ := readCells_of_map (p := p) readable plenty inside
  refine ⟨rest, ?_, after⟩
  have fits : (row.map cellBack).length = width := by rw [List.length_map, wide]
  simp only [readRow, accept?_of_map front, read, bind, Except.bind, fits, ↓reduceIte]

theorem readRows_of_map {rows : List (List (Option Term))} {width : Nat}
    (readable : ∀ row ∈ rows, ∀ cell ∈ row, Cell.Readable cell) (wide : ∀ row ∈ rows, row.length = width) {fuel : Nat}
    {ts : Tokens} {kinds : List Kind} (enough : rows.length < fuel) (same : ts.map Token.kind = rowsKinds rows kinds) :
    ∃ rest, readRows p width fuel ts = .ok (rows.map (·.map cellBack), rest) ∧ rest.map Token.kind = kinds := by
  induction rows generalizing fuel ts with
  | nil =>
    obtain _ | fuel := fuel
    · cases enough
    · exact ⟨ts.advance, by simp only [readRows, accept?_of_map same]; rfl, advance_of_map same (by simp)⟩
  | cons row rows ih =>
    obtain _ | fuel := fuel
    · cases enough
    · have front : ts.map Token.kind = rowKinds row ++ rowsKinds rows kinds := by
        rw [same]
        simp [rowsKinds]
      have noBrace : ts.accept? (.punct .rbrace) = none := accept?_other front (by simp)
      obtain ⟨middle, read, after⟩ :=
        readRow_of_map (p := p) (readable row List.mem_cons_self) (wide row List.mem_cons_self) front
      obtain ⟨final, reads, done⟩ := ih (fun r member => readable r (List.mem_cons_of_mem row member))
        (fun r member => wide r (List.mem_cons_of_mem row member)) (Nat.lt_of_succ_lt_succ enough) after
      refine ⟨final, ?_, done⟩
      rw [readRows_succ]
      simp only [noBrace, read, bind, Except.bind, reads]
      rfl

theorem readNames_of_map {names : List String} {kind : Kind} {kinds : List Kind} (ends : ∀ name, kind ≠ .var name)
    {fuel : Nat} {ts : Tokens} (enough : names.length < fuel)
    (same : ts.map Token.kind = names.map Kind.var ++ kind :: kinds) :
    ∃ rest, readNames fuel ts = (names, rest) ∧ rest.map Token.kind = kind :: kinds := by
  induction names generalizing fuel ts with
  | nil =>
    obtain _ | fuel := fuel
    · cases enough
    · refine ⟨ts, ?_, same⟩
      simp only [readNames]
      rw [kind_of_map same]
      split
      · next name => exact absurd rfl (ends name)
      · rfl
  | cons name names ih =>
    obtain _ | fuel := fuel
    · cases enough
    · obtain ⟨rest, ran, after⟩ := ih (Nat.lt_of_succ_lt_succ enough) (advance_of_map same (by simp))
      refine ⟨rest, ?_, after⟩
      simp only [readNames, kind_of_map same, ran]

theorem readHead_of_map {names : List String} {ts : Tokens} {kinds : List Kind}
    (same : ts.map Token.kind = names.map Kind.var ++ Kind.punct .lbrace :: kinds) :
    ∃ rest, readHead ts = .ok (names, rest) ∧ rest.map Token.kind = .punct .lbrace :: kinds := by
  have noParen : ts.accept? (.punct .lparen) = none := by
    cases names with
    | nil => exact accept?_other same (by simp)
    | cons name names => exact accept?_other same (by simp)
  have plenty : names.length < ts.length := by
    rw [length_of_map same]
    simp
  obtain ⟨rest, ran, after⟩ := readNames_of_map (by simp) plenty same
  exact ⟨rest, by simp only [readHead, noParen, ran], after⟩

/-- A table of readable cells is read as it stands, up to the form of its integers. -/
theorem readInline_of_map {names : List String} {rows : List (List (Option Term))} {ts : Tokens}
    (readable : ∀ row ∈ rows, ∀ cell ∈ row, Cell.Readable cell) (wide : ∀ row ∈ rows, row.length = names.length)
    (same : ts.map Token.kind = tableKinds names rows) :
    ∃ rest, readInline p ts = .ok (some ⟨names, rows.map (·.map cellBack)⟩, rest) ∧ rest.kind = .eof := by
  have start : (ts.accept? (.keyword .values)).or (ts.accept? (.keyword .bindings)) = some ts.advance := by
    rw [accept?_other same (by simp), accept?_of_map same, Option.none_or]
  obtain ⟨brace, head, atBrace⟩ := readHead_of_map (advance_of_map same (by simp))
  have body := advance_of_map atBrace (by simp)
  have plenty : rows.length < brace.advance.length := by
    have each : ∀ row ∈ rows, rowKinds row ≠ [] := by simp [rowKinds]
    have := length_le_flatMap each
    rw [length_of_map body]
    simp only [rowsKinds, List.length_append, List.length_cons]
    omega
  obtain ⟨rest, ranRows, atEnd⟩ := readRows_of_map (p := p) readable wide plenty body
  refine ⟨rest, ?_, kind_of_map atEnd⟩
  rw [readInline_eq]
  simp only [start, head, expect, bind, Except.bind, accept?_of_map atBrace, ranRows]

/-! ## Names and cells of a table that was read -/

def Drawn (cell : Option Term) : Prop := ∀ t ∈ cell, t.Spelt ∧ t.canonical = t

theorem readNames_formed (fuel : Nat) {ts : Tokens} (formed : ∀ t ∈ ts, t.kind.WellFormed) :
    (∀ name ∈ (readNames fuel ts).1, isVarName name.toList = true) ∧ (readNames fuel ts).2 ⊆ ts := by
  induction fuel generalizing ts with
  | zero => simp [readNames]
  | succ fuel ih =>
    unfold readNames
    split
    · next name kind =>
      obtain ⟨later, rest⟩ := ih fun t member => formed t (ts.advance_subset member)
      have first : isVarName name.toList = true := by
        have formedKind := wellFormed_kind formed
        rwa [kind] at formedKind
      refine ⟨fun n member => ?_, fun t member => ts.advance_subset (rest member)⟩
      rcases List.mem_cons.mp member with rfl | member
      · exact first
      · exact later n member
    · exact ⟨by simp, fun t member => member⟩

theorem readHead_formed {ts rest : Tokens} {names : List String} (formed : ∀ t ∈ ts, t.kind.WellFormed)
    (ran : readHead ts = .ok (names, rest)) : (∀ name ∈ names, isVarName name.toList = true) ∧ rest ⊆ ts := by
  unfold readHead at ran
  split at ran
  · next inner found =>
    have inside := accept?_some found
    obtain ⟨valid, after⟩ := readNames_formed inner.length fun t member => formed t (inside member)
    obtain ⟨last, closed, same⟩ := ok_of_map ran
    cases same
    exact ⟨valid, fun t member => inside (after (expect_ok closed member))⟩
  · have read := Except.ok.inj ran
    have both := readNames_formed ts.length formed
    rwa [read] at both

theorem readCell_formed {ts rest : Tokens} {cell : Option Term} (formed : ∀ t ∈ ts, t.kind.WellFormed)
    (ran : readCell p ts = .ok (cell, rest)) : Drawn cell ∧ rest ⊆ ts := by
  unfold readCell at ran
  split at ran
  · next found => cases ran; exact ⟨by simp [Drawn], accept?_some found⟩
  · cases found : Term.readConstant? p ts with
    | error fault => rw [found] at ran; cases ran
    | ok result =>
      rw [found] at ran
      obtain _ | ⟨t, after⟩ := result
      · cases ran
      · cases ran
        have drawn := Term.readConstant?_some formed found
        refine ⟨?_, drawn.rest⟩
        rintro u ⟨⟩
        exact ⟨drawn.spelt, drawn.canonical⟩

theorem readCells_formed {fuel : Nat} {ts rest : Tokens} {row : List (Option Term)}
    (formed : ∀ t ∈ ts, t.kind.WellFormed) (ran : readCells p fuel ts = .ok (row, rest)) :
    (∀ cell ∈ row, Drawn cell) ∧ rest ⊆ ts := by
  induction fuel generalizing ts row with
  | zero => cases ran
  | succ fuel ih =>
    unfold readCells at ran
    split at ran
    · next found => cases ran; exact ⟨by simp, accept?_some found⟩
    · obtain ⟨⟨cell, middle⟩, first, ran⟩ := ok_of_bind ran
      obtain ⟨⟨cells, after⟩, later, same⟩ := ok_of_bind ran
      cases same
      obtain ⟨drawn, inside⟩ := readCell_formed formed first
      obtain ⟨others, final⟩ := ih (fun t member => formed t (inside member)) later
      exact ⟨List.forall_mem_cons.mpr ⟨drawn, others⟩, fun t member => inside (final member)⟩

theorem readRow_formed {width : Nat} {ts rest : Tokens} {row : List (Option Term)}
    (formed : ∀ t ∈ ts, t.kind.WellFormed) (ran : readRow p width ts = .ok (row, rest)) :
    (∀ cell ∈ row, Drawn cell) ∧ rest ⊆ ts := by
  unfold readRow at ran
  split at ran
  · next inner found =>
    have inside := accept?_some found
    obtain ⟨⟨cells, after⟩, read, ran⟩ := ok_of_bind ran
    obtain ⟨drawn, within⟩ := readCells_formed (fun t member => formed t (inside member)) read
    dsimp only at ran
    split at ran
    · cases ran; exact ⟨drawn, fun t member => inside (within member)⟩
    · cases ran
  · split at ran
    · obtain ⟨⟨cell, after⟩, single, same⟩ := ok_of_map ran
      cases same
      obtain ⟨drawn, within⟩ := readCell_formed formed single
      exact ⟨by simpa using drawn, within⟩
    · cases ran

theorem readRows_formed {width fuel : Nat} {ts rest : Tokens} {rows : List (List (Option Term))}
    (formed : ∀ t ∈ ts, t.kind.WellFormed) (ran : readRows p width fuel ts = .ok (rows, rest)) :
    (∀ row ∈ rows, ∀ cell ∈ row, Drawn cell) ∧ rest ⊆ ts := by
  induction fuel generalizing ts rows with
  | zero => cases ran
  | succ fuel ih =>
    rw [readRows_succ] at ran
    split at ran
    · next found => cases ran; exact ⟨by simp, accept?_some found⟩
    · obtain ⟨⟨row, middle⟩, first, ran⟩ := ok_of_bind ran
      obtain ⟨⟨others, after⟩, later, same⟩ := ok_of_bind ran
      cases same
      obtain ⟨drawn, inside⟩ := readRow_formed formed first
      obtain ⟨formedRows, final⟩ := ih (fun t member => formed t (inside member)) later
      exact ⟨List.forall_mem_cons.mpr ⟨drawn, formedRows⟩, fun t member => inside (final member)⟩

theorem readInline_formed {ts rest : Tokens} {data : Inline} (formed : ∀ t ∈ ts, t.kind.WellFormed)
    (ran : readInline p ts = .ok (some data, rest)) :
    (∀ name ∈ data.names, isVarName name.toList = true) ∧ ∀ row ∈ data.rows, ∀ cell ∈ row, Drawn cell := by
  rw [readInline_eq] at ran
  split at ran
  · cases ran
  · next start found =>
    have within : start ⊆ ts := by
      rcases Option.or_eq_some_iff.mp found with found | ⟨-, found⟩ <;> exact accept?_some found
    obtain ⟨⟨names, brace⟩, head, ran⟩ := ok_of_bind ran
    obtain ⟨body, opened, ran⟩ := ok_of_bind ran
    obtain ⟨⟨rows, after⟩, later, same⟩ := ok_of_bind ran
    cases same
    obtain ⟨valid, before⟩ := readHead_formed (fun t member => formed t (within member)) head
    have inside := fun t member => formed t (within (before (expect_ok opened member)))
    exact ⟨valid, (readRows_formed inside later).1⟩

end Query

end TemplateQuery
