import TemplateQuery.ReadError
import TemplateQuery.Text.Offset
import TemplateQuery.Token.Rest

/-! A whole text as tokens. Between tokens there is only space and comments; the last token marks
the end of the text. -/

set_option autoImplicit false

namespace TemplateQuery.Token

open Text

/-- The text after leading space and comments; `inComment` says whether it starts inside one. A
comment runs up to the end of its line. -/
def skipFrom : Bool → List Char → List Char
  | _, [] => []
  | true, c :: cs => skipFrom (!(c == '\n' || c == '\r')) cs
  | false, c :: cs =>
    if isSpace c then skipFrom false cs
    else if c = '#' then skipFrom true cs
    else c :: cs

def skip (cs : List Char) : List Char := skipFrom false cs

theorem length_skipFrom_le (inComment : Bool) (cs : List Char) : (skipFrom inComment cs).length ≤ cs.length := by
  fun_induction skipFrom inComment cs <;> simp_all <;> omega

/-- The tokens of a text that starts at byte `offset`, or the offset at which no token starts and
the text from there. -/
def scanFrom (offset : Nat) (cs : List Char) : Except (Nat × List Char) (List Token) :=
  let start := offset + (byteSize cs - byteSize (skip cs))
  match _ : skip cs with
  | [] => .ok [⟨.eof, start, start⟩]
  | c :: rest =>
    match _ : scanOne? (c :: rest) with
    | none => .error (start, c :: rest)
    | some (kind, after) =>
      let stop := start + (byteSize (c :: rest) - byteSize after)
      (scanFrom stop after).map (⟨kind, start, stop⟩ :: ·)
termination_by cs.length
decreasing_by
  have shorter := (rest_of_scanOne? ‹scanOne? (c :: rest) = some (kind, after)›).length_lt
  have := length_skipFrom_le false cs
  rw [show skipFrom false cs = c :: rest from ‹skip cs = c :: rest›] at this
  omega

def faultAt : List Char → LexFault
  | '"' :: _ => .unterminatedString
  | '\'' :: _ => .unterminatedString
  | '$' :: _ => .unterminatedPlaceholder
  | c :: _ => .unexpected c
  | [] => .unexpected '?'

def lexError (text : List Char) (position : Nat) (rest : List Char) : LexError :=
  let (line, column) := lineColumn position text
  { fault := faultAt rest, position, line, column
    lineText := String.ofList ((lines text)[line - 1]?.getD []) }

end Token

def tokenize (text : String) : Except ReadError (List Token) :=
  match Token.scanFrom 0 text.toList with
  | .ok tokens => .ok tokens
  | .error (position, rest) => .error (.lex (Token.lexError text.toList position rest))

end TemplateQuery
