import TemplateQuery.Json
import TemplateQuery.Text.Hex

/-! JSON text to documents. -/

set_option autoImplicit false

namespace TemplateQuery.Json

open Text

def isSpace (c : Char) : Bool := c == ' ' || c == '\n' || c == '\t' || c == '\r'

def skipSpace (cs : List Char) : List Char := cs.dropWhile isSpace

def isHighSurrogate (n : Nat) : Bool := 0xD800 ≤ n && n < 0xDC00

def isLowSurrogate (n : Nat) : Bool := 0xDC00 ≤ n && n < 0xE000

def escapeOf? : Char → Option Char
  | '"' => some '"'
  | '\\' => some '\\'
  | '/' => some '/'
  | 'b' => some '\x08'
  | 'f' => some '\x0c'
  | 'n' => some '\n'
  | 'r' => some '\r'
  | 't' => some '\t'
  | _ => none

def joinSurrogates? (high low : Nat) : Option Char :=
  if isHighSurrogate high && isLowSurrogate low then
    charOf? (0x10000 + (high - 0xD800) * 0x400 + (low - 0xDC00))
  else none

/-- The inside of a string up to its quote. Characters beyond the basic plane are escaped as a pair
of surrogates; a lone one gives no character. -/
def stringBody? : List Char → Option (List (Option Char) × List Char)
  | [] => none
  | '\\' :: 'u' :: a :: b :: c :: d :: '\\' :: 'u' :: e :: f :: g :: h :: cs =>
    match hexNumber? [a, b, c, d], hexNumber? [e, f, g, h] with
    | some n, some m =>
      match joinSurrogates? n m with
      | some x => (stringBody? cs).map fun (body, rest) => (some x :: body, rest)
      | none =>
        (stringBody? ('\\' :: 'u' :: e :: f :: g :: h :: cs)).map fun (body, rest) => (charOf? n :: body, rest)
    | _, _ => none
  | '\\' :: 'u' :: a :: b :: c :: d :: cs =>
    (hexNumber? [a, b, c, d]).bind fun n => (stringBody? cs).map fun (body, rest) => (charOf? n :: body, rest)
  | '\\' :: c :: cs => (escapeOf? c).bind fun x => (stringBody? cs).map fun (body, rest) => (some x :: body, rest)
  | c :: cs =>
    if c = '"' then some ([], cs)
    else if c.toNat < 0x20 || c = '\\' then none
    else (stringBody? cs).map fun (body, rest) => (some c :: body, rest)

def textOf? (body : List (Option Char)) : Option String := (body.mapM id).map String.ofList

/-- An object; a name that is no text makes it unusable. -/
def ofFields (fields : List (Option String × Json)) : Json :=
  match fields.mapM fun (name, item) => name.map (·, item) with
  | some fields => .object fields
  | none => .unusable

def digits? (cs : List Char) : Option (List Char × List Char) :=
  match cs.takeWhile Char.isDigit with
  | [] => none
  | ds => some (ds, cs.dropWhile Char.isDigit)

def fraction? : List Char → Option (List Char × List Char)
  | '.' :: cs => (digits? cs).map fun (ds, rest) => ('.' :: ds, rest)
  | cs => some ([], cs)

def exponent? : List Char → Option (List Char × List Char)
  | [] => some ([], [])
  | e :: cs =>
    if e = 'e' || e = 'E' then
      match cs with
      | '+' :: after => (digits? after).map fun (ds, rest) => (e :: '+' :: ds, rest)
      | '-' :: after => (digits? after).map fun (ds, rest) => (e :: '-' :: ds, rest)
      | after => (digits? after).map fun (ds, rest) => (e :: ds, rest)
    else some ([], e :: cs)

/-- A number without its sign; a leading zero stands alone. -/
def magnitude? (cs : List Char) : Option (List Char × List Char) := do
  let (whole, rest) ← match cs with
    | '0' :: after => if after.head?.any Char.isDigit then none else some (['0'], after)
    | cs => digits? cs
  let (fraction, rest) ← fraction? rest
  let (exponent, rest) ← exponent? rest
  some (whole ++ fraction ++ exponent, rest)

def number? : List Char → Option (List Char × List Char)
  | '-' :: cs => (magnitude? cs).map fun (text, rest) => ('-' :: text, rest)
  | cs => magnitude? cs

mutual

def value? (steps : Nat) (cs : List Char) : Option (Json × List Char) :=
  match steps with
  | 0 => none
  | steps + 1 =>
    match skipSpace cs with
    | 'n' :: 'u' :: 'l' :: 'l' :: rest => some (.null, rest)
    | 't' :: 'r' :: 'u' :: 'e' :: rest => some (.bool true, rest)
    | 'f' :: 'a' :: 'l' :: 's' :: 'e' :: rest => some (.bool false, rest)
    | '"' :: rest => (stringBody? rest).map fun (body, rest) => ((textOf? body).elim .unusable .string, rest)
    | '[' :: rest =>
      match skipSpace rest with
      | ']' :: rest => some (.array [], rest)
      | rest => (items? steps rest).map fun (items, rest) => (.array items, rest)
    | '\x7b' :: rest =>
      match skipSpace rest with
      | '\x7d' :: rest => some (.object [], rest)
      | rest => (fields? steps rest).map fun (fields, rest) => (ofFields fields, rest)
    | rest => (number? rest).map fun (text, rest) => (.number (String.ofList text), rest)

def items? (steps : Nat) (cs : List Char) : Option (List Json × List Char) :=
  match steps with
  | 0 => none
  | steps + 1 =>
    (value? steps cs).bind fun (item, rest) =>
      match skipSpace rest with
      | ',' :: rest => (items? steps rest).map fun (items, rest) => (item :: items, rest)
      | ']' :: rest => some ([item], rest)
      | _ => none

def fields? (steps : Nat) (cs : List Char) : Option (List (Option String × Json) × List Char) :=
  match steps with
  | 0 => none
  | steps + 1 =>
    match skipSpace cs with
    | '"' :: rest =>
      (stringBody? rest).bind fun (name, rest) =>
        match skipSpace rest with
        | ':' :: rest =>
          (value? steps rest).bind fun (item, rest) =>
            match skipSpace rest with
            | ',' :: rest => (fields? steps rest).map fun (fields, rest) => ((textOf? name, item) :: fields, rest)
            | '\x7d' :: rest => some ([(textOf? name, item)], rest)
            | _ => none
        | _ => none
    | _ => none

end

/-- The document a text holds, with nothing but space around it. -/
def ofChars? (cs : List Char) : Option Json :=
  -- Every step but the first few takes a character, so twice the length is enough of them.
  match value? (2 * cs.length + 2) cs with
  | some (document, rest) => if (skipSpace rest).isEmpty then some document else none
  | none => none

mutual

def isSound (depth : Nat) : Json → Bool
  | .unusable => false
  | .array items => depth != 0 && areSound (depth - 1) items
  | .object fields => depth != 0 && areSoundFields (depth - 1) fields
  | _ => true

def areSound (depth : Nat) : List Json → Bool
  | [] => true
  | item :: items => item.isSound depth && areSound depth items

def areSoundFields (depth : Nat) : List (String × Json) → Bool
  | [] => true
  | (_, item) :: fields => item.isSound depth && areSoundFields depth fields

end

def maxDepth : Nat := 127

def ofText? (text : String) : Option Json := (ofChars? text.toList).filter (·.isSound maxDepth)

end TemplateQuery.Json
