import TemplateQuery.Text.CaseTable
import TemplateQuery.Text.CasedTable

/-! Upper and lower case of text. -/

set_option autoImplicit false

namespace TemplateQuery.Text

def isAscii (c : Char) : Bool := c.toNat < 0x80

def mapRuns (runs : List CaseRun) (c : Char) : Char :=
  ((runs.findSome? (·.imageOf? c.toNat)).bind charOf?).getD c

def upperChar (c : Char) : List Char :=
  if isAscii c then [c.toUpper]
  else
    match upperSequences.lookup c.toNat with
    | some codes => codes.filterMap charOf?
    | none => [mapRuns upperRuns c]

def upper (cs : List Char) : List Char := cs.flatMap upperChar

/-- Whether the first character that casing does not look past takes part in casing. -/
def meetsCased (cs : List Char) : Bool :=
  match cs.dropWhile caseIgnorable.has with
  | c :: _ => cased.has c
  | [] => false

/-- The lower case of a character between the text before it, last character first, and the text after it. -/
def lowerChar (before : List Char) (c : Char) (after : List Char) : List Char :=
  if isAscii c then [c.toLower]
  else if c == 'İ' then ['i', '\u0307']
  else if c == 'Σ' then
    -- The end of a word.
    if meetsCased before && !meetsCased after then ['ς'] else ['σ']
  else [mapRuns lowerRuns c]

def lowerFrom (before : List Char) : List Char → List Char
  | [] => []
  | c :: cs => lowerChar before c cs ++ lowerFrom (c :: before) cs

def lower (cs : List Char) : List Char := lowerFrom [] cs

end TemplateQuery.Text
