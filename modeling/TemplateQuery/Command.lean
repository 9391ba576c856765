import TemplateQuery.Clause.Compiler
import TemplateQuery.Command.Arguments
import TemplateQuery.Event.Printer
import TemplateQuery.Event.Reader
import TemplateQuery.Event.Rebase
import TemplateQuery.Origins.Reader
import TemplateQuery.Settings
import TemplateQuery.Template.Prepare
import TemplateQuery.Template.Reader

/-! Commands: compile the events of a template, prepare a parameterized query, list the origins noted
in a query. -/

set_option autoImplicit false

namespace TemplateQuery

inductive Command where
  | compile (shape : Option Shape) (noUnion : Bool) (base : Option String)
  | prepare (systemId : Option String) (parameters : List String)
  | origins
  deriving DecidableEq, Repr

structure Invocation where
  verbose : Bool
  /-- The settings file. -/
  config : Option String
  command : Command
  /-- The input; none is standard input. -/
  file : Option String
  deriving DecidableEq, Repr

namespace Invocation

open Command

/-- Options common to all commands count wherever they stand; of two settings files the one after the
command's name is used. -/
def ofArguments (arguments : List String) : Except Refusal Invocation := do
  let (outer, level, inner) ← readProgram {} arguments
  let command ← match level with
    | .compile => pure (.compile ((inner.get? .shape).bind Shape.ofName?) (inner.has .noUnion) (inner.get? .base))
    | .prepare => pure (.prepare (inner.get? .systemId) (inner.all .parameter))
    | .origins => pure .origins
    | .program => .error .missingCommand
  return {
    verbose := outer.has .verbose || inner.has .verbose
    config := (inner.get? .config).or (outer.get? .config)
    command
    file := inner.get? .file }

end Invocation

inductive CommandError where
  | unreadableConfig (file reason : String)
  | invalidConfig
  | unreadableInput (file : Option String) (reason : String)
  | malformedEvents (fault : Event.ReadFault)
  | missingSystemId
  | malformedParameter (text : String)
  | compile (violation : Violation)
  | prepare (error : PrepareError)
  | query (error : ReadError)
  deriving DecidableEq, Repr

namespace CommandError

def unreadable (file reason : String) : String := "failed to read " ++ file ++ ": " ++ reason

def message : CommandError → String
  | unreadableConfig file reason => unreadable file reason
  | invalidConfig => "invalid config"
  | unreadableInput (some file) reason => unreadable file reason
  | unreadableInput none reason => reason
  | malformedEvents fault => fault.message
  | missingSystemId => "--system-id is required (or set system_id in the config file)"
  | malformedParameter text => "parameter '" ++ text ++ "' is not name=value"
  | compile violation => violation.message
  | prepare error => error.message
  | query error => error.message

def isUsage : CommandError → Bool
  | missingSystemId | malformedParameter _ => true
  | _ => false

/-- Whether the command stopped half-way, for want of bits. -/
def isOverflow : CommandError → Bool
  | compile (.exhausted _) | prepare .overflow => true
  | _ => false

def exitCode (e : CommandError) : Nat := if e.isUsage then 2 else if e.isOverflow then 101 else 1

end CommandError

namespace Settings

def declaredLabels (events : List Event) : List String :=
  events.filterMap fun
    | .declare label _ => some label
    | _ => none

def missingDeclarations (s : Settings) (events : List Event) : List Event :=
  let missing := s.namespaces.filter fun (label, _) => !(declaredLabels events).contains label
  missing.map fun (label, iri) => .declare label iri

def insertAtStart? (extra : List Event) : List Event → Option (List Event)
  | [] => none
  | .startDocument :: rest => some (.startDocument :: (extra ++ rest))
  | e :: rest => (insertAtStart? extra rest).map (e :: ·)

/-- The events with the configured namespaces declared, before all else if no document starts. -/
def complete (s : Settings) (events : List Event) : List Event :=
  let extra := s.missingDeclarations events
  (insertAtStart? extra events).getD (extra ++ events)

def queryText (s : Settings) (layout : Layout) (base : Option String) (events : List Event) :
    Except Violation String := do
  let events := s.complete events
  let events := match base with
    | some base => ({ replaced := none, replacement := some base } : Event.BaseChange).apply events
    | none => events
  return Event.queryText (← TemplateQuery.compile layout events)

end Settings

namespace Command

def splitParameter? (text : String) : Option (String × String) :=
  match Text.splitAt? (· == '=') text.toList with
  | some (c :: name, value) => some (String.ofList (c :: name), String.ofList value)
  | _ => none

def readParameters (texts : List String) : Except CommandError Parameters :=
  texts.foldlM (fun ps text =>
    match splitParameter? text with
    | some (name, value) => .ok (ps.add name value)
    | none => .error (.malformedParameter text)) []

def prepareText (now : DateTime) (next : Nat) (systemId : String) (parameters : List String) (text : String) :
    Except CommandError String := do
  let supplied ← readParameters parameters
  let q ← (Template.ofText text systemId).mapError .query
  (q.prepare now next supplied).mapError .prepare

def answer (settings : Settings) (now : DateTime) (next : Nat) (input : String) : Command → Except CommandError String
  | .compile shape noUnion base => do
    let events ← (Event.ofText input).mapError .malformedEvents
    (settings.queryText (settings.layout shape noUnion) base events).mapError .compile
  | .prepare systemId parameters =>
    match systemId.or settings.systemId with
    | none => .error .missingSystemId
    | some systemId => prepareText now next systemId parameters input
  | .origins => .ok (Json.prettyTexts (Origins.ofQueryText input).entries ++ "\n")

end Command

namespace Invocation

def settings (read : Option String → Except String String) : Option String → Except CommandError Settings
  | none => .ok {}
  | some file => do
    let text ← (read (some file)).mapError (.unreadableConfig file)
    match Settings.ofText? text with
    | some s => .ok s
    | none => .error .invalidConfig

/-- Settings are read before the input, and the input before all that the command asks for. `read` gives
the content of a file or of standard input, or the reason why there is none. -/
def run (i : Invocation) (read : Option String → Except String String) (now : DateTime) (next : Nat) :
    Except CommandError String := do
  let settings ← settings read i.config
  let input ← (read i.file).mapError (.unreadableInput i.file)
  i.command.answer settings now next input

end Invocation

end TemplateQuery
