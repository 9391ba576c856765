import TemplateQuery.Query.Parser
import TemplateQuery.Template

/-! From a parameterized query to the text sent to a store. Every inline expression gives way to its
value, and the parameter values follow as a table. -/

set_option autoImplicit false

namespace TemplateQuery

inductive PrepareError where
  /-- An inline expression without a value. -/
  | missingValue (expression : String)
  /-- A parameter text that writes no term. -/
  | unreadable (value : String)
  | read (error : ReadError)
  /-- An inline expression that overflows. -/
  | overflow
  deriving DecidableEq, Repr

def PrepareError.message : PrepareError → String
  | missingValue expression => "No value for expression: " ++ expression
  | unreadable value => "Invalid parameter value: " ++ value
  | read error => error.message
  | overflow => "decimal out of range"

namespace Template

abbrev Row := List (Option Term)

def column (q : Template) (supplied : Parameters) (name : String) (sample : Option Term) :
    Except PrepareError (List (Option Term)) :=
  match supplied.lookup name with
  | none | some [] => .ok [sample]
  | some texts => texts.mapM fun text =>
    match q.resolve? name text with
    | some t => .ok (some t)
    | none => .error (.unreadable text)

/-- Every row with every value of one more column; the rows vary fastest. -/
def extend (rows : List Row) (cells : List (Option Term)) : List Row :=
  cells.flatMap fun cell => rows.map (· ++ [cell])

def rows (q : Template) (supplied : Parameters) : Except PrepareError (List Row) :=
  q.bindings.foldlM (fun rows (name, sample) => return extend rows (← q.column supplied name sample)) [[]]

def cellChars (cell : Option Term) : List Char := (cell.elim "UNDEF".toList Term.writtenChars) ++ [' ']

def rowChars (row : Row) : List Char := "\t(".toList ++ row.flatMap cellChars ++ ")\n".toList

def tableChars (q : Template) (rows : List Row) : List Char :=
  if q.bindings.isEmpty then []
  else
    "\nBINDINGS".toList ++ q.names.flatMap (fun name => ' ' :: '$' :: name.toList) ++ " \x7b\n".toList ++
      rows.flatMap rowChars ++ "\x7d\n".toList

def header (q : Template) : List Char :=
  (if q.systemId = "" then [] else "BASE <".toList ++ q.systemId.toList ++ ">\n".toList) ++
    q.namespaces.flatMap fun (label, iri) =>
      "PREFIX ".toList ++ label.toList ++ ":<".toList ++ iri.toList ++ ">\n".toList

def valueName : String := "_value"

def inlineQuery (q : Template) (rows : List Row) (expression : List Char) : List Char :=
  q.header ++ "SELECT (".toList ++ expression ++ (" AS ?" ++ valueName ++ ") \x7b\x7d LIMIT 1").toList ++
    q.tableChars rows

def inlineValue (q : Template) (now : DateTime) (rows : List Row) (expression : List Char) (next : Nat) :
    Except PrepareError (List Char × Nat) :=
  match Query.ofText (String.ofList (q.inlineQuery rows expression)) with
  | .error e => .error (.read e)
  | .ok query =>
    match query.run now next with
    | none => .error .overflow
    | some (results, next) =>
      match results.first? valueName with
      | some t => .ok (t.writtenChars, next)
      | none => .error (.missingValue (String.ofList expression))

def opening : List Char := ['$', '\x7b']

def splitInline? (text : List Char) : Option (List Char × List Char × List Char) := do
  let (before, rest) ← Text.splitFirst? opening text
  let (expression, after) ← Text.splitAt? (· == '\x7d') rest
  return (before, expression, after)

theorem length_of_splitInline? {text before expression after : List Char}
    (found : splitInline? text = some (before, expression, after)) : after.length < text.length := by
  obtain ⟨⟨front, rest⟩, atOpening, found⟩ := Option.bind_eq_some_iff.mp found
  obtain ⟨⟨body, final⟩, atClosing, same⟩ := Option.bind_eq_some_iff.mp found
  cases same
  exact Nat.lt_of_lt_of_le (Text.length_of_splitAt? atClosing) (Text.length_of_splitFirst? atOpening)

def fill (q : Template) (now : DateTime) (rows : List Row) (text : List Char) (next : Nat) :
    Except PrepareError (List Char) :=
  match _ : splitInline? text with
  | none => .ok text
  | some (before, expression, after) => do
    let (value, next) ← q.inlineValue now rows expression next
    let rest ← q.fill now rows after next
    return before ++ value ++ rest
termination_by text.length
decreasing_by exact length_of_splitInline? ‹_›

def prepare (q : Template) (now : DateTime) (next : Nat) (supplied : Parameters) : Except PrepareError String := do
  let rows ← q.rows supplied
  let text ← q.fill now rows q.text.toList next
  return String.ofList (text ++ q.tableChars rows)

end Template

end TemplateQuery
