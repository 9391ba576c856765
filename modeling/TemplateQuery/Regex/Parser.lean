import TemplateQuery.Regex.Pattern
import TemplateQuery.Text.Blank
import TemplateQuery.Text.Case
import TemplateQuery.Text.Search

/-! The written form of patterns. Settings given inside a pattern hold up to the end of the group they
stand in. Look-around and back references are not part of the language. -/

set_option autoImplicit false

namespace TemplateQuery.Regex

open Text

structure Settings where
  ignoreCase : Bool := false
  multiLine : Bool := false
  dotAll : Bool := false
  swapGreed : Bool := false
  unicode : Bool := true
  /-- Blanks and comments in the pattern do not count. -/
  verbose : Bool := false
  carriageReturn : Bool := false
  deriving DecidableEq, Repr

structure Groups where
  count : Nat := 0
  names : List (String × Nat) := []

namespace Parser

def dropComment (cs : List Char) : List Char := (cs.dropWhile (· != '\n')).drop 1

def gapFrom : Nat → List Char → List Char
  | 0, cs => cs
  | fuel + 1, c :: cs =>
    if isBlank c then gapFrom fuel cs else if c == '#' then gapFrom fuel (dropComment cs) else c :: cs
  | _, [] => []

def gap (s : Settings) (cs : List Char) : List Char := if s.verbose then gapFrom cs.length cs else cs

def isMeta (c : Char) : Bool := "\\.+*?()|[]\x7b\x7d^$#&-~".toList.contains c

def isEscapable (c : Char) : Bool :=
  isMeta c || (isAscii c && !c.isAlphanum && c != '<' && c != '>')

inductive Item where
  | char (c : Char)
  | set (set : CodeRanges)
  | look (l : Look)

def asciiDigit : CodeRanges := .ofLines ["0030-0039"]

def asciiWord : CodeRanges := .ofLines ["0030-0039 0041-005A 005F 0061-007A"]

def asciiBlank : CodeRanges := .ofLines ["0009-000D 0020"]

def wordSet (s : Settings) : CodeRanges := if s.unicode then word else asciiWord

def shorthand? (s : Settings) (c : Char) : Option CodeRanges :=
  let base : CodeRanges := match c.toLower with
    | 'd' => if s.unicode then digit else asciiDigit
    | 's' => if s.unicode then blank else asciiBlank
    | _ => wordSet s
  -- A complement is only of Unicode characters.
  if c.isLower then some base else if s.unicode then some base.outside else none

def isShorthand (c : Char) : Bool := "dswDSW".toList.contains c

def hexDigits? (s : Settings) : Nat → List Char → Option (List Char × List Char)
  | 0, cs => some ([], cs)
  | n + 1, c :: cs =>
    if isHex c then (hexDigits? s n (gap s cs)).map fun (digits, rest) => (c :: digits, rest) else none
  | _, [] => none

def hexUntilBrace? (s : Settings) : Nat → List Char → Option (List Char × List Char)
  | fuel + 1, c :: cs =>
    if c == '\x7d' then some ([], gap s cs)
    else if isHex c then (hexUntilBrace? s fuel (gap s cs)).map fun (digits, rest) => (c :: digits, rest)
    else none
  | _, _ => none

def hexEscape? (s : Settings) (kind : Char) (cs : List Char) : Option (Item × List Char) :=
  match gap s cs with
  | '\x7b' :: inner => do
    let (digits, rest) ← hexUntilBrace? s inner.length (gap s inner)
    if digits.isEmpty then none
    return (.char (← charOf? (← hexNumber? digits)), rest)
  | inner => do
    let (digits, rest) ← hexDigits? s (if kind == 'x' then 2 else if kind == 'u' then 4 else 8) inner
    let c ← charOf? (← hexNumber? digits)
    -- Two digits stand for a byte when the pattern is not of Unicode characters.
    if kind == 'x' && !s.unicode && !isAscii c then none else some (.char c, rest)

def nameUntilBrace? (s : Settings) : Nat → List Char → Option (List Char × List Char)
  | fuel + 1, c :: cs =>
    if c == '\x7d' then some ([], cs)
    else (nameUntilBrace? s fuel (gap s cs)).map fun (name, rest) => (c :: name, rest)
  | _, _ => none

/-- The characters that a property's text in braces stands for. Any of three signs may join a name and a
value. -/
def namedProperty? (name : List Char) : Option CodeRanges :=
  match splitFirst? "!=".toList name with
  | some (n, v) => propertyValue? n v
  | none =>
    match splitAt? (· == ':') name with
    | some (n, v) => propertyValue? n v
    | none =>
      match splitAt? (· == '=') name with
      | some (n, v) => propertyValue? n v
      | none => property? name

def complementIf (negated : Bool) (set : CodeRanges) : CodeRanges := if negated then set.outside else set

def foldIf (s : Settings) (set : CodeRanges) : CodeRanges :=
  if s.ignoreCase then set.closeCase (if s.unicode then foldPairs else asciiFoldPairs) else set

def propertyEscape? (s : Settings) (negated : Bool) (cs : List Char) : Option (Item × List Char) := do
  if !s.unicode then none
  let (set, rest) ← match gap s cs with
    | '\x7b' :: inner => do
      let (name, rest) ← nameUntilBrace? s inner.length (gap s inner)
      some (← namedProperty? name, rest)
    | '\\' :: _ | [] => none
    | c :: rest => some (← property? [c], gap s rest)
  return (.set (complementIf negated (foldIf s set)), rest)

def boundaryKind? (name : List Char) : Option Look :=
  match String.ofList name with
  | "start" => some .wordStart
  | "end" => some .wordEnd
  | "start-half" => some .wordStartHalf
  | "end-half" => some .wordEndHalf
  | _ => none

def isBoundaryChar (c : Char) : Bool := c.isAlpha || c == '-'

def boundaryEscape? (s : Settings) (cs : List Char) : Option (Item × List Char) :=
  match cs with
  | '\x7b' :: inner =>
    match gap s inner with
    | [] => none
    | c :: rest =>
      -- Braces that cannot name a kind are left to repetition.
      if !isBoundaryChar c then some (.look .boundary, cs)
      else do
        let (name, rest) ← nameUntilBrace? s (rest.length + 1) (c :: rest)
        some (.look (← boundaryKind? name), rest)
  | _ => some (.look .boundary, cs)

def escape? (s : Settings) : List Char → Option (Item × List Char)
  | [] => none
  | c :: cs =>
    if c.isDigit then none
    else if c == 'x' || c == 'u' || c == 'U' then hexEscape? s c cs
    else if c == 'p' || c == 'P' then propertyEscape? s (c == 'P') cs
    else if isShorthand c then (shorthand? s c).map fun set => (.set set, cs)
    else if isEscapable c then some (.char c, cs)
    else
      match c with
      | 'a' => some (.char '\x07', cs)
      | 'f' => some (.char '\x0c', cs)
      | 't' => some (.char '\t', cs)
      | 'n' => some (.char '\n', cs)
      | 'r' => some (.char '\r', cs)
      | 'v' => some (.char '\x0b', cs)
      | 'A' => some (.look .textStart, cs)
      | 'z' => some (.look .textEnd, cs)
      | 'b' => boundaryEscape? s cs
      | 'B' => some (.look .notBoundary, cs)
      | '<' => some (.look .wordStart, cs)
      | '>' => some (.look .wordEnd, cs)
      | _ => none

def asciiClass? (name : List Char) : Option CodeRanges :=
  match String.ofList name with
  | "alnum" => some (.ofLines ["0030-0039 0041-005A 0061-007A"])
  | "alpha" => some (.ofLines ["0041-005A 0061-007A"])
  | "ascii" => some (.ofLines ["0000-007F"])
  | "blank" => some (.ofLines ["0009 0020"])
  | "cntrl" => some (.ofLines ["0000-001F 007F"])
  | "digit" => some asciiDigit
  | "graph" => some (.ofLines ["0021-007E"])
  | "lower" => some (.ofLines ["0061-007A"])
  | "print" => some (.ofLines ["0020-007E"])
  | "punct" => some (.ofLines ["0021-002F 003A-0040 005B-0060 007B-007E"])
  | "space" => some asciiBlank
  | "upper" => some (.ofLines ["0041-005A"])
  | "word" => some asciiWord
  | "xdigit" => some asciiHexDigit
  | _ => none

def bracketedName? : List Char → Option (Bool × CodeRanges × List Char)
  | ':' :: cs => do
    let (negated, cs) := match cs with
      | '^' :: rest => (true, rest)
      | _ => (false, cs)
    let (name, rest) ← splitAt? (· == ':') cs
    let rest ← dropFront? [']'] rest
    some (negated, ← asciiClass? name, rest)
  | _ => none

/-- A complement that holds bytes, not characters, is refused. -/
def negate? (s : Settings) (negated : Bool) (set : CodeRanges) : Option CodeRanges :=
  if negated && !s.unicode then none else some (complementIf negated set)

def member? (s : Settings) : List Char → Option (Item × List Char)
  | [] => none
  | c :: cs => do
    let (item, rest) ← if c == '\\' then escape? s cs else some (.char c, cs)
    match item with
    | .char c => if !s.unicode && !isAscii c then none else some (.char c, rest)
    | _ => some (item, rest)

def itemSet? : Item → Option CodeRanges
  | .char c => some (.ofChar c)
  | .set set => some set
  | .look _ => none

def range? (s : Settings) (cs : List Char) : Option (CodeRanges × List Char) := do
  let (first, rest) ← member? s cs
  match gap s rest with
  | [] => none
  | '-' :: more =>
    match gap s more with
    | [] => none
    | c :: cs =>
      -- A hyphen before the closing bracket or another hyphen makes no range.
      if c == ']' || c == '-' then some (← itemSet? first, '-' :: more)
      else do
        let (second, rest) ← member? s (c :: cs)
        match first, second with
        | .char a, .char b => if a ≤ b then some ([⟨a.toNat, b.toNat⟩], rest) else none
        | _, _ => none
  | rest => some (← itemSet? first, rest)

inductive SetOp where
  | inter
  | diff
  | symm

def SetOp.apply (op : SetOp) (a b : CodeRanges) : CodeRanges :=
  match op with
  | .inter => a.common b
  | .diff => a.without b
  | .symm => a.apart b

structure Nested where
  set : CodeRanges
  depth : Nat

structure Bracket where
  pending : Option (Nested × SetOp) := none
  members : CodeRanges := []
  count : Nat := 0
  deepest : Nat := 0

namespace Bracket

def insert (b : Bracket) (member : Nested) : Bracket :=
  { b with members := member.set ++ b.members, count := b.count + 1, deepest := max b.deepest member.depth }

/-- The members since the last operator; several are one level deeper than each of them. -/
def operand (b : Bracket) : Nested := ⟨b.members.normal, if b.count ≤ 1 then b.deepest else b.deepest + 1⟩

def close (s : Settings) (b : Bracket) : Nested :=
  match b.pending with
  | none => b.operand
  | some (left, op) =>
    let right := b.operand
    ⟨op.apply (foldIf s left.set) (foldIf s right.set), max left.depth right.depth + 1⟩

def operator (s : Settings) (b : Bracket) (op : SetOp) : Bracket := { pending := some (b.close s, op) }

end Bracket

def frontHyphens (s : Settings) : Nat → Bracket → List Char → Bracket × List Char
  | fuel + 1, b, '-' :: cs => frontHyphens s fuel (b.insert ⟨.ofChar '-', 0⟩) (gap s cs)
  | _, b, cs => (b, cs)

def openBracket? (s : Settings) (cs : List Char) : Option (Bool × Bracket × List Char) := do
  let (negated, cs) := match gap s cs with
    | '^' :: rest => (true, gap s rest)
    | rest => (false, rest)
  let (b, rest) := frontHyphens s cs.length {} cs
  match rest with
  | [] => none
  | ']' :: more =>
    if cs.head? == some '-' then some (negated, b, rest)
    else some (negated, b.insert ⟨.ofChar ']', 0⟩, gap s more)
  | _ => some (negated, b, rest)

mutual

def bracket? (s : Settings) : Nat → List Char → Option (Nested × List Char)
  | 0, _ => none
  | fuel + 1, cs => do
    let (negated, b, rest) ← openBracket? s cs
    let (inner, rest) ← bracketRest? s fuel b rest
    some (⟨← negate? s negated (foldIf s inner.set), inner.depth + 1⟩, rest)

def bracketRest? (s : Settings) : Nat → Bracket → List Char → Option (Nested × List Char)
  | 0, _, _ => none
  | fuel + 1, b, cs =>
    match gap s cs with
    | [] => none
    | ']' :: rest => some (b.close s, rest)
    | '&' :: '&' :: rest => bracketRest? s fuel (b.operator s .inter) rest
    | '-' :: '-' :: rest => bracketRest? s fuel (b.operator s .diff) rest
    | '~' :: '~' :: rest => bracketRest? s fuel (b.operator s .symm) rest
    | '[' :: rest =>
      match bracketedName? rest with
      | some (negated, set, rest) => do
        bracketRest? s fuel (b.insert ⟨← negate? s negated (foldIf s set), 0⟩) rest
      | none => do
        let (inner, rest) ← bracket? s fuel rest
        bracketRest? s fuel (b.insert inner) rest
    | rest => do
      let (set, rest) ← range? s rest
      bracketRest? s fuel (b.insert ⟨set, 0⟩) rest

end

def decimal? (s : Settings) (cs : List Char) : Option (Nat × List Char) :=
  let rec digits : Nat → List Char → List Char × List Char
    | fuel + 1, c :: cs =>
      if c.isDigit then
        let (rest, after) := digits fuel (gap s cs)
        (c :: rest, after)
      else ([], c :: cs)
    | _, cs => ([], cs)
  let (found, rest) := digits cs.length (trimStart cs)
  let n := Nat.ofDigitChars 10 found 0
  if found.isEmpty || UInt32.size ≤ n then none else some (n, gap s (trimStart rest))

def counts? (s : Settings) (cs : List Char) : Option (Nat × Option Nat × List Char) := do
  let (least, rest) ← decimal? s (gap s cs)
  match rest with
  | '\x7d' :: rest => some (least, some least, rest)
  | ',' :: rest =>
    match gap s rest with
    | '\x7d' :: rest => some (least, none, rest)
    | rest => do
      let (most, rest) ← decimal? s rest
      match rest with
      | '\x7d' :: rest => if least ≤ most then some (least, some most, rest) else none
      | _ => none
  | _ => none

/-- A repetition operator at the front of the text. `none` when there is none, `some none` when it is
faulty. -/
def repetition? (s : Settings) (cs : List Char) : Option (Option (Nat × Option Nat × Bool × List Char)) :=
  let lazily (least : Nat) (most : Option Nat) (rest : List Char) :=
    match rest with
    | '?' :: rest => (least, most, s.swapGreed, rest)
    | rest => (least, most, !s.swapGreed, rest)
  match cs with
  | '?' :: rest => some (some (lazily 0 (some 1) rest))
  | '*' :: rest => some (some (lazily 0 none rest))
  | '+' :: rest => some (some (lazily 1 none rest))
  | '\x7b' :: rest => some ((counts? s rest).map fun (least, most, rest) => lazily least most (gap s rest))
  | _ => none

def setFlag (on : Bool) (s : Settings) : Char → Option Settings
  | 'i' => some { s with ignoreCase := on }
  | 'm' => some { s with multiLine := on }
  | 's' => some { s with dotAll := on }
  | 'U' => some { s with swapGreed := on }
  | 'u' => some { s with unicode := on }
  | 'x' => some { s with verbose := on }
  | 'R' => some { s with carriageReturn := on }
  | _ => none

/-- Flags up to a colon or a closing parenthesis, which is answered too. -/
def flags? (s : Settings) (on : Bool) (seen : List Char) :
    List Char → Option (Settings × List Char × Char × List Char)
  | [] => none
  | c :: cs =>
    if c == ':' || c == ')' then
      -- A minus sign may not come last.
      if seen.head? == some '-' then none else some (s, seen, c, cs)
    else if seen.contains c then none
    else if c == '-' then flags? s false (c :: seen) cs
    else (setFlag on s c).bind fun s => flags? s on (c :: seen) cs

def isNameStart (c : Char) : Bool := c == '_' || alphabetic.has c

def isNameChar (c : Char) : Bool :=
  c == '_' || c == '.' || c == '[' || c == ']' || alphabetic.has c || ((category? "n").any (·.has c))

def groupName? (cs : List Char) : Option (String × List Char) := do
  let (name, rest) ← splitAt? (· == '>') cs
  match name with
  | [] => none
  | c :: more => if isNameStart c && more.all isNameChar then some (String.ofList name, rest) else none

inductive Opening where
  | settings (s : Settings)
  | plain (s : Settings)
  | capture (name : Option String)

def opening? (s : Settings) (cs : List Char) : Option (Opening × List Char) :=
  match gap s cs with
  | '?' :: 'P' :: '<' :: rest => (groupName? rest).map fun (name, rest) => (.capture (some name), rest)
  | '?' :: '<' :: rest => (groupName? rest).map fun (name, rest) => (.capture (some name), rest)
  | '?' :: rest => do
    let (t, seen, last, rest) ← flags? s true [] rest
    if last == ':' then some (.plain t, rest) else if seen.isEmpty then none else some (.settings t, rest)
  | rest => some (.capture none, rest)

def itemPattern (s : Settings) : Item → Pattern
  | .char c => .chars (foldIf s (.ofChar c))
  | .set set => .chars set
  | .look l => .look l (wordSet s).has

def dot? (s : Settings) : Option Pattern :=
  if !s.unicode then none
  else if s.dotAll then some (.chars [⟨0, CodeRanges.lastCode⟩])
  else if s.carriageReturn then some (.chars (CodeRanges.outside (.ofLines ["000A 000D"])))
  else some (.chars (CodeRanges.ofChar '\n').outside)

def lineStart (s : Settings) : Look :=
  if !s.multiLine then .textStart else if s.carriageReturn then .returnLineStart else .lineStart

def lineEnd (s : Settings) : Look :=
  if !s.multiLine then .textEnd else if s.carriageReturn then .returnLineEnd else .lineEnd

def primitive? (s : Settings) : List Char → Option (Pattern × List Char)
  | [] => none
  | '.' :: cs => (dot? s).map fun p => (p, cs)
  | '^' :: cs => some (.look (lineStart s) (wordSet s).has, cs)
  | '$' :: cs => some (.look (lineEnd s) (wordSet s).has, cs)
  | '\\' :: cs => (escape? s cs).map fun (item, rest) => (itemPattern s item, rest)
  | c :: cs => some (itemPattern s (.char c), cs)

structure Piece where
  pattern : Pattern := .empty
  depth : Nat := 0

/-- The pieces of a branch so far, latest first; a change of settings is one that nothing repeats. -/
abbrev Branch := List (Option Piece)

/-- Several pieces are one level deeper than each of them. -/
def Branch.piece (b : Branch) : Piece :=
  let pieces := b.filterMap id
  let pattern := pieces.foldl (fun rest p => match rest with | .empty => p.pattern | rest => .seq p.pattern rest) .empty
  let depth := pieces.foldl (fun deepest p => max deepest p.depth) 0
  ⟨pattern, if b.length ≤ 1 then depth else depth + 1⟩

structure Body where
  done : List Piece := []
  branch : Branch := []

namespace Body

def piece (b : Body) : Piece :=
  let last := b.branch.piece
  match b.done.reverse with
  | [] => last
  | first :: more =>
    let rest := more ++ [last]
    ⟨rest.foldl (fun left p => .choice left p.pattern) first.pattern,
      rest.foldl (fun deepest p => max deepest p.depth) first.depth + 1⟩

def push (b : Body) (p : Option Piece) : Body := { b with branch := p :: b.branch }

def alternate (b : Body) : Body := ⟨b.branch.piece :: b.done, []⟩

end Body

def addGroup? (g : Groups) (name : Option String) : Option Groups :=
  let index := g.count + 1
  match name with
  | none => some { g with count := index }
  | some name =>
    if g.names.any (·.1 == name) then none else some ⟨index, (name, index) :: g.names⟩

def body? : Nat → Settings → Groups → Body → List Char → Option (Piece × Groups × List Char)
  | 0, _, _, _, _ => none
  | fuel + 1, s, g, b, cs =>
    match gap s cs with
    | [] => some (b.piece, g, [])
    | ')' :: rest => some (b.piece, g, ')' :: rest)
    | '|' :: rest => body? fuel s g b.alternate rest
    | '[' :: rest => do
      let (inner, rest) ← bracket? s (rest.length + 1) rest
      body? fuel s g (b.push (some ⟨.chars inner.set, inner.depth⟩)) rest
    | '(' :: rest => do
      match ← opening? s rest with
      | (.settings t, rest) => body? fuel t g (b.push none) rest
      | (.plain t, rest) =>
        let (inner, g, rest) ← body? fuel t g {} rest
        body? fuel s g (b.push (some { inner with depth := inner.depth + 1 })) (← dropFront? [')'] rest)
      | (.capture name, rest) =>
        let h ← addGroup? g name
        let (inner, h, rest) ← body? fuel s h {} rest
        body? fuel s h (b.push (some ⟨.group (g.count + 1) inner.pattern, inner.depth + 1⟩))
          (← dropFront? [')'] rest)
    | rest =>
      match repetition? s rest with
      | some found => do
        let (least, most, greedy, rest) ← found
        match b.branch with
        | some p :: before =>
          let repeated : Piece := ⟨p.pattern.times least most greedy, p.depth + 1⟩
          body? fuel s g { b with branch := some repeated :: before } rest
        | _ => none
      | none => do
        let (p, rest) ← primitive? s rest
        body? fuel s g (b.push (some ⟨p, 0⟩)) rest

def deepest : Nat := 250

end Parser

structure Parsed where
  pattern : Pattern
  groups : Groups

def parse? (s : Settings) (text : List Char) : Option Parsed := do
  let (whole, groups, rest) ← Parser.body? (text.length + 1) s {} {} text
  if !rest.isEmpty || Parser.deepest < whole.depth then none
  else some ⟨whole.pattern, groups⟩

end TemplateQuery.Regex
