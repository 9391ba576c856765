import TemplateQuery.Text.Hex
import TemplateQuery.Text.Search
import TemplateQuery.Toml

/-! Settings text to documents. Numbers, dates and arrays with items are refused, as no setting takes
them. -/

set_option autoImplicit false

namespace TemplateQuery.Toml

open Text

def isSpace (c : Char) : Bool := c == ' ' || c == '\t'

def skipSpace (cs : List Char) : List Char := cs.dropWhile isSpace

def isLineChar (c : Char) : Bool := c == '\t' || (0x20 ≤ c.toNat && c.toNat != 0x7F)

def newline? : List Char → Option (List Char)
  | '\n' :: cs => some cs
  | '\r' :: '\n' :: cs => some cs
  | _ => none

def skipComment (cs : List Char) : List Char :=
  match skipSpace cs with
  | '#' :: rest => rest.dropWhile isLineChar
  | rest => rest

def lineEnd? (cs : List Char) : Option (List Char) :=
  match skipComment cs with
  | [] => some []
  | rest => newline? rest

def skipLines (steps : Nat) (cs : List Char) : List Char :=
  match steps with
  | 0 => cs
  | steps + 1 =>
    match newline? (skipComment cs) with
    | some rest => skipLines steps rest
    | none => skipComment cs

def escapeOf? : Char → Option Char
  | 'b' => some '\x08'
  | 't' => some '\t'
  | 'n' => some '\n'
  | 'f' => some '\x0c'
  | 'r' => some '\r'
  | '"' => some '"'
  | '\\' => some '\\'
  | _ => none

def escape? : List Char → Option (Char × List Char)
  | 'u' :: a :: b :: c :: d :: cs => ((hexNumber? [a, b, c, d]).bind charOf?).map (·, cs)
  | 'U' :: a :: b :: c :: d :: e :: f :: g :: h :: cs =>
    ((hexNumber? [a, b, c, d, e, f, g, h]).bind charOf?).map (·, cs)
  | c :: cs => (escapeOf? c).map (·, cs)
  | [] => none

def basicBody? (steps : Nat) (cs : List Char) : Option (List Char × List Char) :=
  match steps, cs with
  | 0, _ | _, [] => none
  | steps + 1, c :: cs =>
    if c = '"' then some ([], cs)
    else if c = '\\' then
      (escape? cs).bind fun (x, cs) => (basicBody? steps cs).map fun (body, rest) => (x :: body, rest)
    else if isLineChar c then (basicBody? steps cs).map fun (body, rest) => (c :: body, rest)
    else none

def literalBody? (cs : List Char) : Option (List Char × List Char) :=
  match cs.dropWhile fun c => c != '\'' && isLineChar c with
  | '\'' :: rest => some (cs.takeWhile fun c => c != '\'' && isLineChar c, rest)
  | _ => none

def skipBlank (steps : Nat) (cs : List Char) : List Char :=
  match steps with
  | 0 => cs
  | steps + 1 =>
    match newline? (skipSpace cs) with
    | some rest => skipBlank steps rest
    | none => skipSpace cs

/-- A backslash at the end of a line takes with it all space up to the next character. -/
def foldedLine? (cs : List Char) : Option (List Char) :=
  (newline? (skipSpace cs)).map fun rest => skipBlank (rest.length + 1) rest

/-- The end of a text of lines: three quotes, before which one or two more belong to the text. -/
def closing? (quote : Char) (cs : List Char) : Option (List Char × List Char) :=
  match cs.takeWhile (· == quote), cs.dropWhile (· == quote) with
  | quotes, rest =>
    if quotes.length < 3 then none
    else
      let extra := min (quotes.length - 3) 2
      some (List.replicate extra quote, List.replicate (quotes.length - 3 - extra) quote ++ rest)

/-- Lines between triple quotes, after the first three. Line ends are read as line feeds; escapes are
read between double quotes only. -/
def linesBody? (quote : Char) (steps : Nat) (cs : List Char) : Option (List Char × List Char) :=
  match steps, cs with
  | 0, _ | _, [] => none
  | steps + 1, c :: cs =>
    match closing? quote (c :: cs) with
    | some (extra, rest) => some (extra, rest)
    | none =>
      match newline? (c :: cs) with
      | some rest => (linesBody? quote steps rest).map fun (body, rest) => ('\n' :: body, rest)
      | none =>
        if c = '\\' && quote == '"' then
          match foldedLine? cs with
          | some rest => linesBody? quote steps rest
          | none =>
            (escape? cs).bind fun (x, cs) => (linesBody? quote steps cs).map fun (body, rest) => (x :: body, rest)
        else if isLineChar c then (linesBody? quote steps cs).map fun (body, rest) => (c :: body, rest)
        else none

/-- A line end right after the opening quotes is no part of the text. -/
def linesText? (quote : Char) (cs : List Char) : Option (List Char × List Char) :=
  linesBody? quote (cs.length + 1) ((newline? cs).getD cs)

def lineText? : List Char → Option (List Char × List Char)
  | '"' :: cs => basicBody? (cs.length + 1) cs
  | '\'' :: cs => literalBody? cs
  | _ => none

def text? : List Char → Option (List Char × List Char)
  | '"' :: '"' :: '"' :: cs => linesText? '"' cs
  | '\'' :: '\'' :: '\'' :: cs => linesText? '\'' cs
  | cs => lineText? cs

def isKeyChar (c : Char) : Bool := c.isAlphanum || c == '-' || c == '_'

def simpleKey? (cs : List Char) : Option (String × List Char) :=
  match cs.takeWhile isKeyChar with
  | [] => (lineText? cs).map fun (key, rest) => (String.ofList key, rest)
  | key => some (String.ofList key, cs.dropWhile isKeyChar)

def key? (steps : Nat) (cs : List Char) : Option (List String × List Char) :=
  match steps with
  | 0 => none
  | steps + 1 =>
    (simpleKey? (skipSpace cs)).bind fun (first, rest) =>
      match skipSpace rest with
      | '.' :: rest => (key? steps rest).map fun (path, rest) => (first :: path, rest)
      | rest => some ([first], rest)

mutual

def value? (steps : Nat) (cs : List Char) : Option (Toml × List Char) :=
  match steps with
  | 0 => none
  | steps + 1 =>
    match cs with
    | 't' :: 'r' :: 'u' :: 'e' :: rest => some (.flag true, rest)
    | 'f' :: 'a' :: 'l' :: 's' :: 'e' :: rest => some (.flag false, rest)
    | '[' :: rest =>
      match skipLines rest.length rest with
      | ']' :: rest => some (.emptyArray, rest)
      | _ => none
    | '\x7b' :: rest =>
      match skipSpace rest with
      | '\x7d' :: rest => some (.table .closed [], rest)
      | rest => (pairs? steps [] rest).map fun (entries, rest) => (.table .closed entries, rest)
    | cs => (text? cs).map fun (content, rest) => (.text (String.ofList content), rest)

def pairs? (steps : Nat) (entries : Entries) (cs : List Char) : Option (Entries × List Char) :=
  match steps with
  | 0 => none
  | steps + 1 =>
    match key? (cs.length + 1) cs with
    | some (path, '=' :: rest) =>
      (value? steps (skipSpace rest)).bind fun (content, rest) =>
        (assign? content path entries).bind fun entries =>
          match skipSpace rest with
          | ',' :: rest => pairs? steps entries rest
          | '\x7d' :: rest => some (entries, rest)
          | _ => none
    | _ => none

end

/-- One statement: the header of a table, or a key with its value. Answers the header in force after it. -/
def statement? (header : List String) (entries : Entries) (cs : List Char) :
    Option (List String × Entries × List Char) :=
  match cs with
  | '[' :: rest =>
    match key? (rest.length + 1) rest with
    | some (path, ']' :: rest) => do return (path, ← define? path entries, ← lineEnd? rest)
    | _ => none
  | cs =>
    match key? (cs.length + 1) cs with
    | some (path, '=' :: rest) => do
      let (content, rest) ← value? (rest.length + 1) (skipSpace rest)
      return (header, ← assignIn? content path header entries, ← lineEnd? rest)
    | _ => none

def statements? (steps : Nat) (header : List String) (entries : Entries) (cs : List Char) : Option Entries :=
  match steps with
  | 0 => none
  | steps + 1 =>
    match skipLines cs.length cs with
    | [] => some entries
    | cs => (statement? header entries cs).bind fun (header, entries, rest) => statements? steps header entries rest

def ofChars? (cs : List Char) : Option Entries :=
  -- A byte order mark is passed over.
  let cs := (dropFront? ['\uFEFF'] cs).getD cs
  statements? (cs.length + 1) [] [] cs

end TemplateQuery.Toml
