import TemplateQuery.Regex.Letter
import TemplateQuery.Regex.Listed
import TemplateQuery.Text.CaseFold
import TemplateQuery.Text.CasedTable

/-! Properties that characters have or lack. Most are derived from the general categories, the lists and the
case pairs. -/

set_option autoImplicit false

namespace TemplateQuery.Regex

open Text

def blank : CodeRanges := .ofLines ["0009-000D 0020 0085 00A0 1680 2000-200A 2028-2029 202F 205F 3000"]

def math : CodeRanges := (inCategories ["sm"]).joined otherMath

/-- What patterns are written with is kept out of identifiers. -/
def patternChar : CodeRanges := patternSyntax.joined patternWhiteSpace

def letterOrLetterNumber : CodeRanges := inCategories ["lu", "ll", "lt", "lm", "lo", "nl"]

def idStart : CodeRanges := (letterOrLetterNumber.joined otherIdStart).without patternChar

def idContinue : CodeRanges :=
  idStart.joined (((inCategories ["mn", "mc", "nd", "pc"]).joined otherIdContinue).without patternChar)

def incompatibleId : CodeRanges := .ofLines
  ["037A 309B-309C FC5E-FC63 FDFA-FDFB FE70 FE72 FE74 FE76 FE78 FE7A FE7C FE7E"]

def incompatibleIdStart : CodeRanges := .ofLines ["0E33 0EB3 FF9E-FF9F"]

def xidContinue : CodeRanges := idContinue.without incompatibleId

def xidStart : CodeRanges := (idStart.without incompatibleId).without incompatibleIdStart

def format : CodeRanges := inCategories ["cf"]

/-- Annotation marks and the controls of Egyptian hieroglyphs are shown where they are not supported. -/
def shownFormat : CodeRanges := .ofLines ["FFF9-FFFB 13430-1343F"]

def defaultIgnorable : CodeRanges :=
  (otherDefaultIgnorable.joined variationSelector).joined
    ((format.without shownFormat).without prependedConcatenationMark)

def graphemeExtend : CodeRanges := (inCategories ["mn", "me"]).joined otherGraphemeExtend

def graphemeBase : CodeRanges :=
  ((inCategories ["cc", "cf", "co", "cn", "zl", "zp"]).joined graphemeExtend).outside

def changesLowercased : CodeRanges := CodeRanges.normal (lowerRuns.flatMap CaseRun.codes)

def changesUppercased : CodeRanges :=
  CodeRanges.normal (upperRuns.flatMap CaseRun.codes ++ upperSequences.map fun (n, _) => ⟨n, n⟩)

def titled : CodeRanges := .ofLines
  ["01C5 01C8 01CB 01F2 10D0-10FA 10FD-10FF 1F88-1F8F 1F98-1F9F 1FA8-1FAF 1FBC 1FCC 1FFC"]

def capitalDigraph : CodeRanges := .ofLines ["01C4 01C7 01CA 01F1"]

def changesTitlecased : CodeRanges := (changesUppercased.without titled).joined capitalDigraph

def changesCasemapped : CodeRanges := (changesLowercased.joined changesUppercased).joined changesTitlecased

/-- The capitals of Cherokee, which folding keeps. -/
def foldedCapital : CodeRanges := .ofLines ["13A0-13F5"]

def foldedSmall : CodeRanges := .ofLines
  ["00B5 00DF 0149 017F 0345 03C2 03D0-03D1 03D5-03D6 03F0-03F1 03F5 0587 13F8-13FD 1C80-1C88 1E9A-1E9B",
   "1F80-1F87 1F90-1F97 1FA0-1FA7 1FB2-1FB4 1FB7 1FC2-1FC4 1FC7 1FF2-1FF4 1FF7 AB70-ABBF FB00-FB06 FB13-FB17"]

def changesCasefolded : CodeRanges := (changesLowercased.without foldedCapital).joined foldedSmall

def otherAlphabetic : CodeRanges := alphabetic.without letterOrLetterNumber

def otherLowercase : CodeRanges := lowercase.without (inCategories ["ll"])

def otherUppercase : CodeRanges := uppercase.without (inCategories ["lu"])

def derivedProperties : List (List String × CodeRanges) :=
  [(["alphabetic", "alpha"], alphabetic), (["caseignorable", "ci"], caseIgnorable), (["cased"], cased),
   (["changeswhencasefolded", "cwcf"], changesCasefolded), (["changeswhencasemapped", "cwcm"], changesCasemapped),
   (["changeswhenlowercased", "cwl"], changesLowercased), (["changeswhentitlecased", "cwt"], changesTitlecased),
   (["changeswhenuppercased", "cwu"], changesUppercased),
   (["defaultignorablecodepoint", "di"], defaultIgnorable), (["graphemebase", "grbase"], graphemeBase),
   (["graphemeextend", "grext"], graphemeExtend), (["idcontinue", "idc"], idContinue),
   (["idstart", "ids"], idStart), (["lowercase", "lower"], lowercase), (["math"], math),
   (["otheralphabetic", "oalpha"], otherAlphabetic), (["otherlowercase", "olower"], otherLowercase),
   (["otheruppercase", "oupper"], otherUppercase), (["uppercase", "upper"], uppercase),
   (["whitespace", "space", "wspace"], blank), (["xidcontinue", "xidc"], xidContinue),
   (["xidstart", "xids"], xidStart)]

def binaryProperty? (name : String) : Option CodeRanges :=
  ((listedProperties ++ derivedProperties).find? (·.1.contains name)).map Prod.snd

end TemplateQuery.Regex
