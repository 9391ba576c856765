import TemplateQuery.Text.Case

/-! Built-in functions: their names and how many arguments they take. -/

set_option autoImplicit false

namespace TemplateQuery

inductive Function where
  | bound | isIri | isBlank | isLiteral | isNumeric | str | lang | datatype | iri | bnode | strDt
  | strLang | strLen | subStr | ucase | lcase | strStarts | strEnds | contains | strBefore | strAfter
  | encodeForUri | concat | langMatches | regex | replace | abs | round | ceil | floor | rand | now
  | year | month | day | hours | minutes | seconds | timezone | tz | md5 | sha1 | sha256 | sha384
  | sha512 | uuid | strUuid | ifThenElse | coalesce | sameTerm
  deriving DecidableEq, Repr

namespace Function

def name : Function → String
  | .bound => "BOUND"
  | .isIri => "isIRI"
  | .isBlank => "isBLANK"
  | .isLiteral => "isLITERAL"
  | .isNumeric => "isNUMERIC"
  | .str => "STR"
  | .lang => "LANG"
  | .datatype => "DATATYPE"
  | .iri => "IRI"
  | .bnode => "BNODE"
  | .strDt => "STRDT"
  | .strLang => "STRLANG"
  | .strLen => "STRLEN"
  | .subStr => "SUBSTR"
  | .ucase => "UCASE"
  | .lcase => "LCASE"
  | .strStarts => "STRSTARTS"
  | .strEnds => "STRENDS"
  | .contains => "CONTAINS"
  | .strBefore => "STRBEFORE"
  | .strAfter => "STRAFTER"
  | .encodeForUri => "ENCODE_FOR_URI"
  | .concat => "CONCAT"
  | .langMatches => "LANGMATCHES"
  | .regex => "REGEX"
  | .replace => "REPLACE"
  | .abs => "ABS"
  | .round => "ROUND"
  | .ceil => "CEIL"
  | .floor => "FLOOR"
  | .rand => "RAND"
  | .now => "NOW"
  | .year => "YEAR"
  | .month => "MONTH"
  | .day => "DAY"
  | .hours => "HOURS"
  | .minutes => "MINUTES"
  | .seconds => "SECONDS"
  | .timezone => "TIMEZONE"
  | .tz => "TZ"
  | .md5 => "MD5"
  | .sha1 => "SHA1"
  | .sha256 => "SHA256"
  | .sha384 => "SHA384"
  | .sha512 => "SHA512"
  | .uuid => "UUID"
  | .strUuid => "STRUUID"
  | .ifThenElse => "IF"
  | .coalesce => "COALESCE"
  | .sameTerm => "sameTerm"

def all : List Function :=
  [.bound, .isIri, .isBlank, .isLiteral, .isNumeric, .str, .lang, .datatype, .iri, .bnode, .strDt,
   .strLang, .strLen, .subStr, .ucase, .lcase, .strStarts, .strEnds, .contains, .strBefore, .strAfter,
   .encodeForUri, .concat, .langMatches, .regex, .replace, .abs, .round, .ceil, .floor, .rand, .now,
   .year, .month, .day, .hours, .minutes, .seconds, .timezone, .tz, .md5, .sha1, .sha256, .sha384,
   .sha512, .uuid, .strUuid, .ifThenElse, .coalesce, .sameTerm]

def aliases : List (String × Function) := [("ISURI", .isIri), ("URI", .iri), ("ENCODEFORURI", .encodeForUri)]

def ofWord? (word : List Char) : Option Function :=
  let upper := Text.upper word
  match all.find? fun f => f.name.toList.map Char.toUpper == upper with
  | some f => some f
  | none => aliases.lookup (String.ofList upper)

/-- The numbers of arguments that a function takes, in words; `none` when any number will do. -/
def arity? : Function → Option String
  | .rand | .now | .uuid | .strUuid => some "no arguments"
  | .bnode => some "at most 1 argument"
  | .strDt | .strLang | .strStarts | .strEnds | .contains | .strBefore | .strAfter | .langMatches
  | .sameTerm => some "exactly 2 arguments"
  | .subStr | .regex => some "2 or 3 arguments"
  | .ifThenElse => some "exactly 3 arguments"
  | .replace => some "3 or 4 arguments"
  | .concat | .coalesce => none
  | _ => some "exactly 1 argument"

end Function

end TemplateQuery
