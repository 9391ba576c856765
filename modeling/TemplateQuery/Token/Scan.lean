import TemplateQuery.Text.Hex
import TemplateQuery.Token
import TemplateQuery.Token.Chars

/-! One token off the front of a text. Every reader below gives what it read and the rest, or
refuses; `scanOne?` tries them in a fixed order and the first that accepts wins. -/

set_option autoImplicit false

namespace TemplateQuery.Token

open Text

abbrev Found (α : Type) := Option (α × List Char)

/-- Put a character in front of what was found; nothing comes of a missing one. -/
def prepend (c? : Option Char) (found : Found (List Char)) : Found (List Char) :=
  match c?, found with
  | some c, some (body, rest) => some (c :: body, rest)
  | _, _ => none

def hexChar? (digits : List Char) : Option Char := (hexNumber? digits).bind charOf?

def operator? : List Char → Found Kind
  | '^' :: '^' :: cs => some (.punct .doubleCaret, cs)
  | '|' :: '|' :: cs => some (.punct .or, cs)
  | '&' :: '&' :: cs => some (.punct .and, cs)
  | '!' :: '=' :: cs => some (.punct .ne, cs)
  | '<' :: '=' :: cs => some (.punct .le, cs)
  | '>' :: '=' :: cs => some (.punct .ge, cs)
  | _ => none

def iriBody? : List Char → Found (List Char)
  | [] => none
  | '\\' :: 'u' :: a :: b :: c :: d :: cs => prepend (hexChar? [a, b, c, d]) (iriBody? cs)
  | '\\' :: 'U' :: a :: b :: c :: d :: e :: f :: g :: h :: cs =>
    prepend (hexChar? [a, b, c, d, e, f, g, h]) (iriBody? cs)
  | c :: cs =>
    if c = '>' then some ([], cs)
    else if isIriChar c then prepend (some c) (iriBody? cs)
    else none

def iri? : List Char → Found Kind
  | '<' :: cs => (iriBody? cs).map fun (body, rest) => (.iri (String.ofList body), rest)
  | _ => none

/-- The inside of a placeholder up to its closing brace; `depth` inner braces are open. -/
def braced? (depth : Nat) : List Char → Found (List Char)
  | [] => none
  | c :: cs =>
    if c = '\x7b' then prepend (some c) (braced? (depth + 1) cs)
    else if c = '\x7d' then
      match depth with
      | 0 => some ([], cs)
      | outer + 1 => prepend (some c) (braced? outer cs)
    else prepend (some c) (braced? depth cs)

def placeholder? : List Char → Found Kind
  | '$' :: '\x7b' :: cs => (braced? 0 cs).map fun (body, rest) => (.placeholder (String.ofList body), rest)
  | _ => none

def var? : List Char → Found Kind
  | c :: d :: cs =>
    if (c = '?' || c = '$') && isVarStart d then
      some (.var (String.ofList (d :: cs.takeWhile isVarChar)), cs.dropWhile isVarChar)
    else none
  | _ => none

def blank? : List Char → Found Kind
  | '_' :: ':' :: c :: cs =>
    -- The label may hold dots; one at its end spoils it.
    let more := cs.takeWhile fun d => isNameChar d || d == '.'
    if (isLetterOrUnderscore c || c.isDigit) && more.getLast? != some '.' then
      some (.blank (String.ofList (c :: more)), cs.dropWhile fun d => isNameChar d || d == '.')
    else none
  | _ => none

def anon? : List Char → Found Kind
  | '[' :: cs =>
    match cs.dropWhile isSpace with
    | ']' :: rest => some (.anon, rest)
    | _ => none
  | _ => none

def isTagChar (c : Char) : Bool := c.isAlphanum || c == '-'

def langTag? : List Char → Found Kind
  | '@' :: cs =>
    match cs.takeWhile isTagChar with
    | [] => none
    | tag => some (.langTag (String.ofList tag), cs.dropWhile isTagChar)
  | _ => none

def isLocalEscape (c : Char) : Bool := "_~.-!$&'()*+,;=/?#@%".toList.contains c

def localContinues (cs : List Char) : Bool :=
  cs.head?.any fun c => isNameChar c || c == ':' || c == '%' || c == '\\'

/-- The local part of a name from some point on. -/
def localBody? : List Char → Found (List Char)
  | [] => some ([], [])
  | '%' :: a :: b :: cs =>
    if isHex a && isHex b then prepend (some '%') (prepend (some a) (prepend (some b) (localBody? cs)))
    else none
  | '\\' :: c :: cs => if isLocalEscape c then prepend (some c) (localBody? cs) else none
  | c :: cs =>
    if isNameChar c || c = ':' then prepend (some c) (localBody? cs)
    else if c = '.' then
      if localContinues cs then prepend (some c) (localBody? cs) else some ([], c :: cs)
    -- A bad escape spoils all of it.
    else if c = '%' || c = '\\' then none
    else some ([], c :: cs)

def localPart? : List Char → Found (List Char)
  | [] => none
  | c :: cs => if isLocalStart c || c == '%' || c == '\\' then localBody? (c :: cs) else none

def afterColon (label cs : List Char) : Kind × List Char :=
  match localPart? cs with
  | some (localPart, rest) => (.prefixed (String.ofList label) (String.ofList localPart), rest)
  | none => (.nsLabel (String.ofList label), cs)

def emptyLabel? : List Char → Found Kind
  | ':' :: cs => some (afterColon [] cs)
  | _ => none

/-- A run of name characters. A dot belongs to it when a name character follows. -/
def dotted : List Char → List Char × List Char
  | [] => ([], [])
  | c :: cs =>
    if isNameChar c || (c == '.' && cs.head?.any isNameChar) then
      let (word, rest) := dotted cs
      (c :: word, rest)
    else ([], c :: cs)

def word? : List Char → Found Kind
  | [] => none
  | c :: cs =>
    if isLetter c then
      match dotted (c :: cs) with
      | (label, ':' :: rest) => some (afterColon label rest)
      | (word, rest) =>
        match Keyword.ofWord? word with
        | some k => some (.keyword k, rest)
        | none => some (.name (String.ofList word), rest)
    else none

def simpleEscape? : Char → Option Char
  | 't' => some '\t'
  | 'b' => some '\x08'
  | 'n' => some '\n'
  | 'r' => some '\r'
  | 'f' => some '\x0c'
  | '"' => some '"'
  | '\'' => some '\''
  | '\\' => some '\\'
  | _ => none

def shortBody? (quote : Char) : List Char → Found (List Char)
  | [] => none
  | '\\' :: 'u' :: a :: b :: c :: d :: cs => prepend (hexChar? [a, b, c, d]) (shortBody? quote cs)
  | '\\' :: 'U' :: a :: b :: c :: d :: e :: f :: g :: h :: cs =>
    prepend (hexChar? [a, b, c, d, e, f, g, h]) (shortBody? quote cs)
  | '\\' :: c :: cs => prepend (simpleEscape? c) (shortBody? quote cs)
  | c :: cs =>
    if c = quote then some ([], cs)
    else if c = '\\' || c = '\n' || c = '\r' then none
    else prepend (some c) (shortBody? quote cs)

def longBody? (quote : Char) : List Char → Found (List Char)
  | [] => none
  | '\\' :: 'u' :: a :: b :: c :: d :: cs => prepend (hexChar? [a, b, c, d]) (longBody? quote cs)
  | '\\' :: 'U' :: a :: b :: c :: d :: e :: f :: g :: h :: cs =>
    prepend (hexChar? [a, b, c, d, e, f, g, h]) (longBody? quote cs)
  | '\\' :: c :: cs => prepend (simpleEscape? c) (longBody? quote cs)
  | c :: cs =>
    if c = quote && cs.take 2 == [quote, quote] then some ([], cs.drop 2)
    else if c = '\\' then none
    else prepend (some c) (longBody? quote cs)

/-- The long form of a string where three quotes stand, else the short one. -/
def string? : List Char → Found Kind
  | [] => none
  | q :: cs =>
    if q = '"' || q = '\'' then
      -- A long string that never ends is read as an empty short one.
      let long := if cs.take 2 == [q, q] then longBody? q (cs.drop 2) else none
      (long <|> shortBody? q cs).map fun (body, rest) => (.string (String.ofList body), rest)
    else none

def isExponentMark (c : Char) : Bool := c == 'e' || c == 'E'

def digits (cs : List Char) : List Char × List Char := (cs.takeWhile Char.isDigit, cs.dropWhile Char.isDigit)

/-- Digits with a point, before which there may be none; `trailing` says whether there may be none
after it. -/
def pointed? (trailing : Bool) (cs : List Char) : Found (List Char) :=
  match digits cs with
  | (whole, '.' :: after) =>
    match digits after with
    | ([], rest) => if trailing && !whole.isEmpty then some (whole ++ ['.'], rest) else none
    | (fraction, rest) => some (whole ++ '.' :: fraction, rest)
  | _ => none

def sign : List Char → List Char × List Char
  | '+' :: cs => (['+'], cs)
  | '-' :: cs => (['-'], cs)
  | cs => ([], cs)

def exponent? : List Char → Found (List Char)
  | [] => none
  | e :: cs =>
    if isExponentMark e then
      match digits (sign cs).2 with
      | ([], _) => none
      | (power, rest) => some (e :: (sign cs).1 ++ power, rest)
    else none

def double? (cs : List Char) : Found Kind :=
  let mantissa :=
    match pointed? true cs with
    | some found => some found
    | none =>
      match digits cs with
      | ([], _) => none
      | found => some found
  mantissa.bind fun (mantissa, rest) =>
    (exponent? rest).map fun (exponent, rest) => (.double (String.ofList (mantissa ++ exponent)), rest)

def decimal? (cs : List Char) : Found Kind :=
  (pointed? false cs).bind fun (text, rest) =>
    if rest.head?.any isExponentMark then none else some (.decimal (String.ofList text), rest)

def integer? (cs : List Char) : Found Kind :=
  match digits cs with
  | ([], _) => none
  | (text, rest) => if rest.head?.any isExponentMark then none else some (.integer (String.ofList text), rest)

def punctOf? : Char → Option Punct
  | '\x7b' => some .lbrace
  | '\x7d' => some .rbrace
  | '(' => some .lparen
  | ')' => some .rparen
  | '[' => some .lbracket
  | ']' => some .rbracket
  | '.' => some .dot
  | ',' => some .comma
  | ';' => some .semicolon
  | '=' => some .eq
  | '<' => some .lt
  | '>' => some .gt
  | '+' => some .plus
  | '-' => some .minus
  | '*' => some .star
  | '/' => some .slash
  | '!' => some .bang
  | '?' => some .question
  | '|' => some .pipe
  | '^' => some .caret
  | _ => none

def punct? : List Char → Found Kind
  | [] => none
  | c :: cs => (punctOf? c).map fun mark => (.punct mark, cs)

def scanOne? (cs : List Char) : Found Kind :=
  (operator? cs).or <| (iri? cs).or <| (placeholder? cs).or <| (var? cs).or <| (blank? cs).or <|
    (anon? cs).or <| (langTag? cs).or <| (emptyLabel? cs).or <| (word? cs).or <| (string? cs).or <|
    (double? cs).or <| (decimal? cs).or <| (integer? cs).or <| punct? cs

end TemplateQuery.Token
