import TemplateQuery.Digest.Md5
import TemplateQuery.Digest.Sha1
import TemplateQuery.Digest.Sha2
import TemplateQuery.Eval.Number
import TemplateQuery.Eval.Term
import TemplateQuery.Eval.Text

/-! Calls of built-in functions on arguments yet to be evaluated. -/

set_option autoImplicit false

namespace TemplateQuery

namespace Builtin

def digest (f : Function) (g : String → List Char) (args : Arguments) : Eval Value :=
  args.one f fun a => do return .plain (g (String.ofList (← Eval.untagged f a)))

/-- Only the branch taken is evaluated. -/
def choose (args : Arguments) : Eval Value :=
  args.three .ifThenElse fun condition yes no => do
    if ← Eval.truth (← condition) then yes else no

def coalesce : Arguments → Eval Value
  | [] => Eval.failType .noneBound
  | arg :: rest => do
    match ← Eval.attempt arg with
    | .ok v => return v
    | .error _ => coalesce rest

/-- The value of a call. Whether a variable is bound is asked about the variable itself and not about a
value, and is settled elsewhere. -/
def call (c : Context) (f : Function) (args : Arguments) : Eval Value :=
  match f with
  | .bound => args.one .bound fun _ => Eval.failType .boundArgument
  | .isIri => ask f isIri args
  | .isBlank => ask f isBlank args
  | .isLiteral => ask f Value.isLiteral args
  | .isNumeric => ask f Value.isNumeric args
  | .str => str args
  | .lang => lang args
  | .datatype => datatype args
  | .iri => iri c.base args
  | .bnode => bnode args
  | .strDt => strDt args
  | .strLang => strLang args
  | .sameTerm => sameTerm args
  | .langMatches => langMatches args
  | .strLen => strlen args
  | .subStr => args.twoOrThree f substr
  | .ucase => mapText f Text.upper args
  | .lcase => mapText f Text.lower args
  | .strStarts => testTexts f (fun text front => front.isPrefixOf text) args
  | .strEnds => testTexts f (fun text back => back.isSuffixOf text) args
  | .contains => testTexts f (fun text part => Text.contains part text) args
  | .strBefore => cutText f before args
  | .strAfter => cutText f after args
  | .encodeForUri => encodeForUri args
  | .concat => concatFrom [] none args
  | .regex => args.twoOrThree f regex
  | .replace => args.threeOrFour f replace
  | .abs => numeric f (Value.abs f) args
  | .round => numeric f (Value.round f .half) args
  | .ceil => numeric f (Value.round f .ceil) args
  | .floor => numeric f (Value.round f .floor) args
  | .rand => rand args
  | .now => args.zero f (return .dateTime c.now)
  | .year => dateField f (·.date.year) args
  | .month => dateField f (·.date.month) args
  | .day => dateField f (·.date.day) args
  | .hours => dateField f (·.time.hour) args
  | .minutes => dateField f (·.time.minute) args
  | .seconds => seconds args
  | .timezone => timezone args
  | .tz => tz args
  | .md5 => digest f Digest.md5 args
  | .sha1 => digest f Digest.sha1 args
  | .sha256 => digest f Digest.sha256 args
  | .sha384 => digest f Digest.sha384 args
  | .sha512 => digest f Digest.sha512 args
  | .uuid => uuid args
  | .strUuid => strUuid args
  | .ifThenElse => choose args
  | .coalesce => coalesce args

end Builtin

end TemplateQuery
