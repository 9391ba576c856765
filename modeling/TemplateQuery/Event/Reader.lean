import TemplateQuery.Event.Json
import TemplateQuery.Json.Reader
import TemplateQuery.Text.Blank
import TemplateQuery.Text.Offset

/-! Reading events from text: one array of all of them, or one on each line that is not blank. -/

set_option autoImplicit false

namespace TemplateQuery.Event

/-- Text that holds no events, with the line at fault where there is one to each event. -/
structure ReadFault where
  line : Option Nat
  deriving DecidableEq, Repr

def ReadFault.message (f : ReadFault) : String :=
  match f.line with
  | some n => "line " ++ toString n ++ ": JSON parse error"
  | none => "JSON parse error"

def ofChars? (cs : List Char) : Option Event := (Json.ofChars? cs).bind ofJson?

def arrayOf? (cs : List Char) : Option (List Event) :=
  match Json.ofChars? cs with
  | some (.array items) => items.mapM ofJson?
  | _ => none

def ofLines (line : Nat) : List (List Char) → Except ReadFault (List Event)
  | [] => .ok []
  | cs :: rest =>
    if cs.all Text.isBlank then ofLines (line + 1) rest
    else
      match ofChars? cs with
      | none => .error ⟨some line⟩
      | some e => (ofLines (line + 1) rest).map (e :: ·)

def ofText (text : String) : Except ReadFault (List Event) :=
  let cs := text.toList
  if (Text.trimStart cs).head? = some '[' then
    match arrayOf? cs with
    | some events => .ok events
    | none => .error ⟨none⟩
  else ofLines 1 (Text.lines cs)

end TemplateQuery.Event
