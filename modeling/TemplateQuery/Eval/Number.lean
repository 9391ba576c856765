import TemplateQuery.Eval.Arguments
import TemplateQuery.Value.Arithmetic

/-! Functions on numbers and dates. -/

set_option autoImplicit false

namespace TemplateQuery

namespace Builtin

def numeric (f : Function) (g : Value → Outcome Value) (args : Arguments) : Eval Value :=
  args.one f fun a => do Eval.ofOutcome (g (← a))

def rand (args : Arguments) : Eval Value :=
  args.zero .rand do return .double (Draws.unitNumber (← Eval.draw))

def uuid (args : Arguments) : Eval Value :=
  args.zero .uuid do return .iri ("urn:uuid:" ++ String.ofList (Draws.uuidText (← Eval.draw)))

def strUuid (args : Arguments) : Eval Value :=
  args.zero .strUuid do return .plain (Draws.uuidText (← Eval.draw))

def ofDateTime (f : Function) (g : DateTime → Eval Value) (args : Arguments) : Eval Value :=
  args.one f fun a => do
    match ← a with
    | .dateTime t => g t
    | v => Eval.failType (.dateTimeArgument f v)

def dateField (f : Function) (g : DateTime → Int) (args : Arguments) : Eval Value :=
  ofDateTime f (fun t => return .integer (g t)) args

def seconds (args : Arguments) : Eval Value :=
  ofDateTime .seconds (fun t => return .decimal ⟨t.time.second * 1000000000 + t.time.nano, 9⟩) args

def timezone (args : Arguments) : Eval Value :=
  ofDateTime .timezone (fun t => match t.offset with
    | some offset => return .typed (String.ofList (DateTime.durationText offset)) Vocabulary.xsdDayTimeDuration
    | none => Eval.failType .noTimezone) args

def tz (args : Arguments) : Eval Value := ofDateTime .tz (fun t => return .plain (DateTime.zoneText t.offset)) args

end Builtin

end TemplateQuery
