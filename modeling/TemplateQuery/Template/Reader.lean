import TemplateQuery.Query.Parser
import TemplateQuery.Template
import TemplateQuery.Text.Blank

/-! Reading a parameterized query. The table of values at its end declares the parameters, and the
first row of the table their samples. -/

set_option autoImplicit false

namespace TemplateQuery.Template

def startsTable (kind : Token.Kind) : Bool := kind == .keyword .bindings || kind == .keyword .values

def depthAfter (depth : Nat) : Token.Kind → Nat
  | .punct .lbrace => depth + 1
  | .punct .rbrace => depth - 1
  | _ => depth

/-- The tokens from the last table that starts outside all braces. -/
def lastTable? (depth : Nat) : Tokens → Option Tokens
  | [] => none
  | t :: rest =>
    (lastTable? (depthAfter depth t.kind) rest).or
      (if depth = 0 && startsTable t.kind then some (t :: rest) else none)

def samples (data : Inline) : List (String × Option Term) :=
  let row := data.rows.headD []
  data.names.mapIdx fun i name => (name, row[i]?.join)

def ofText (text systemId : String) : Except ReadError Template := do
  let tokens ← tokenize text
  let (p, _) ← Query.readPrologue {} tokens.length tokens
  match lastTable? 0 tokens with
  | none => .ok { text, systemId, namespaces := p.namespaces }
  | some table =>
    let (data, rest) ← Query.readInline p table
    if rest.kind ≠ .eof then rest.fail (.afterBindings rest.kind)
    else
      .ok {
        text := String.ofList (Text.trimEnd (Text.takeBytes table.offset text.toList))
        systemId
        namespaces := p.namespaces
        bindings := (data.map samples).getD [] }

end TemplateQuery.Template
