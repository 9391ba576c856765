import TemplateQuery.Expression.Parser
import TemplateQuery.Query
import TemplateQuery.Token.Tokenize

/-! Reading queries: prologue, projection, an empty group, the rows wanted and inline data. -/

set_option autoImplicit false

namespace TemplateQuery

namespace Query

/-- The declarations at the front. A fault is reported at the token after it. -/
def readPrologue (p : Prologue) (fuel : Nat) (ts : Tokens) : Except ReadError (Prologue × Tokens) :=
  match fuel with
  | 0 => .ok (p, ts)
  | fuel + 1 =>
    match ts.kind with
    | .keyword .base =>
      let ts := ts.advance
      match ts.kind with
      | .iri i => readPrologue (p.setBase i) fuel ts.advance
      | found => ts.advance.fail (.expected "IRI after BASE" found)
    | .keyword .declare =>
      let ts := ts.advance
      match ts.kind with
      | .nsLabel label =>
        let ts := ts.advance
        match ts.kind with
        | .iri i => readPrologue (p.declare label i) fuel ts.advance
        | found => ts.advance.fail (.expected "IRI after PREFIX" found)
      | found => ts.advance.fail (.expected "prefix name" found)
    | _ => .ok (p, ts)

def readColumns (p : Prologue) (fuel : Nat) (ts : Tokens) : Except ReadError (List Column × Tokens) :=
  match fuel with
  | 0 => .ok ([], ts)
  | fuel + 1 =>
    match ts.kind with
    | .var name => do
      let (rest, ts) ← readColumns p fuel ts.advance
      .ok (.var name :: rest, ts)
    | .punct .lparen => do
      let (e, ts) ← Expression.read p ts.advance
      let ts ← ts.expect (.keyword .asKw) "AS"
      match ts.kind with
      | .var name =>
        let ts ← ts.advance.expect (.punct .rparen) "')'"
        let (rest, ts) ← readColumns p fuel ts
        .ok (.computed e name :: rest, ts)
      | found => ts.fail (.expected "variable" found)
    | _ => .ok ([], ts)

def readProjection (p : Prologue) (ts : Tokens) : Except ReadError (Projection × Tokens) := do
  match ts.accept? (.punct .star) with
  | some rest => .ok (.star, rest)
  | none =>
    let (items, rest) ← readColumns p ts.length ts
    if items.isEmpty then rest.fail .noProjection else .ok (.columns items, rest)

/-- Counts are 64-bit numbers. -/
def readCount (clause : String) (ts : Tokens) : Except ReadError (Nat × Tokens) :=
  match ts.kind with
  | .integer digits =>
    let n := Nat.ofDigitChars 10 digits.toList 0
    if n < 2 ^ (64 : Nat) then .ok (n, ts.advance) else ts.advance.fail (.outOfRange clause)
  | found => ts.advance.fail (.expected ("integer after " ++ clause) found)

/-- Limits and offsets in any order; the last of each counts. -/
def readSlices (limit offset : Option Nat) (fuel : Nat) (ts : Tokens) :
    Except ReadError (Option Nat × Option Nat × Tokens) :=
  match fuel with
  | 0 => .ok (limit, offset, ts)
  | fuel + 1 =>
    match ts.kind with
    | .keyword .limit => do
      let (n, ts) ← readCount "LIMIT" ts.advance
      readSlices (some n) offset fuel ts
    | .keyword .offset => do
      let (n, ts) ← readCount "OFFSET" ts.advance
      readSlices limit (some n) fuel ts
    | _ => .ok (limit, offset, ts)

def readCell (p : Prologue) (ts : Tokens) : Except ReadError (Option Term × Tokens) := do
  match ts.accept? (.keyword .undef) with
  | some rest => .ok (none, rest)
  | none =>
    match ← Term.readConstant? p ts with
    | some (t, rest) => .ok (some t, rest)
    | none => ts.fail (.expected "data value" ts.kind)

def readCells (p : Prologue) (fuel : Nat) (ts : Tokens) : Except ReadError (List (Option Term) × Tokens) :=
  match fuel with
  | 0 => ts.fail (.expected "data value" ts.kind)
  | fuel + 1 =>
    match ts.accept? (.punct .rparen) with
    | some rest => .ok ([], rest)
    | none => do
      let (cell, ts) ← readCell p ts
      let (cells, ts) ← readCells p fuel ts
      .ok (cell :: cells, ts)

def readRows (p : Prologue) (width : Nat) (fuel : Nat) (ts : Tokens) :
    Except ReadError (List (List (Option Term)) × Tokens) :=
  match fuel with
  | 0 => ts.fail (.expected "data value" ts.kind)
  | fuel + 1 =>
    match ts.accept? (.punct .rbrace) with
    | some rest => .ok ([], rest)
    | none => do
      let (row, ts) ← match ts.accept? (.punct .lparen) with
        | some rest => do
          let (row, ts) ← readCells p rest.length rest
          if row.length = width then .ok (row, ts) else ts.fail (.rowWidth row.length width)
        | none =>
          -- The cells of a single column need no parentheses.
          if width = 1 then (readCell p ts).map fun (cell, ts) => ([cell], ts)
          else ts.fail (.expected "'('" ts.kind)
      let (rows, ts) ← readRows p width fuel ts
      .ok (row :: rows, ts)

def readNames (fuel : Nat) (ts : Tokens) : List String × Tokens :=
  match fuel with
  | 0 => ([], ts)
  | fuel + 1 =>
    match ts.kind with
    | .var name =>
      let (names, ts) := readNames fuel ts.advance
      (name :: names, ts)
    | _ => ([], ts)

def readInline (p : Prologue) (ts : Tokens) : Except ReadError (Option Inline × Tokens) :=
  match (ts.accept? (.keyword .values)).or (ts.accept? (.keyword .bindings)) with
  | none => .ok (none, ts)
  | some ts => do
    let (names, ts) ← match ts.accept? (.punct .lparen) with
      | some rest =>
        let (names, ts) := readNames rest.length rest
        (ts.expect (.punct .rparen) "')'").map fun ts => (names, ts)
      | none => .ok (readNames ts.length ts)
    let ts ← ts.expect (.punct .lbrace) "'\x7b'"
    let (rows, ts) ← readRows p names.length ts.length ts
    .ok (some ⟨names, rows⟩, ts)

def readModifier (ts : Tokens) : Option Modifier × Tokens :=
  match ts.kind with
  | .keyword .distinct => (some .distinct, ts.advance)
  | .keyword .reduced => (some .reduced, ts.advance)
  | _ => (none, ts)

def ofTokens (ts : Tokens) : Except ReadError Query := do
  let (prologue, ts) ← readPrologue {} ts.length ts
  let ts ← ts.expect (.keyword .select) "SELECT"
  let (modifier, ts) := readModifier ts
  let (projection, ts) ← readProjection prologue ts
  let ts ← Expression.readEmptyGroup ((ts.accept? (.keyword .whereKw)).getD ts)
  let (limit, offset, ts) ← readSlices none none ts.length ts
  let (data, ts) ← readInline prologue ts
  if ts.kind = .eof then .ok { prologue, modifier, projection, limit, offset, data }
  else ts.fail (.unexpected ts.kind)

def ofText (text : String) : Except ReadError Query := tokenize text >>= ofTokens

end Query

end TemplateQuery
