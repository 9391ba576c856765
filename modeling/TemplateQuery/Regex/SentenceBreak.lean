import TemplateQuery.Regex.WordBreak

/-! Classes of characters by which text is cut into sentences. -/

set_option autoImplicit false

namespace TemplateQuery.Regex

open Text

namespace SentenceBreak

def aTerm : CodeRanges := .ofLines ["002E 2024 FE52 FF0E"]

def separator : CodeRanges := .ofLines ["0085 2028-2029"]

def lineEnd : CodeRanges := .ofLines ["000A 000D"]

def georgianSmall : CodeRanges := .ofLines ["10D0-10FA 10FD-10FF"]

def georgianCapital : CodeRanges := .ofLines ["1C90-1CBA 1CBD-1CBF"]

def plainQuotation : CodeRanges := .ofLines ["0022 0027 275B-2760 2E00-2E0D 2E1C-2E1D 2E20-2E21 1F676-1F678"]

def extend : CodeRanges := (graphemeExtend.joined (inCategories ["mc"])).joined (.ofChar '\u200D')

def numeric : CodeRanges := WordBreak.numeric.joined (.ofChar '\u066C')

def lower : CodeRanges := (lowercase.without graphemeExtend).without georgianSmall

def upper : CodeRanges := ((inCategories ["lt"]).joined uppercase).without georgianCapital

def otherLetter : CodeRanges :=
  (alphabetic.joined (.ofChar '\u05F3')).without (CodeRanges.normal (lower ++ upper ++ extend))

end SentenceBreak

open SentenceBreak in
def sentenceBreaks : List (List String × CodeRanges) :=
  [(["at", "aterm"], aTerm), (["cr"], .ofChar '\r'),
   (["cl", "close"], (inCategories ["ps", "pe", "pi", "pf"]).joined plainQuotation), (["ex", "extend"], extend),
   (["fo", "format"], (format.without extend).without numeric), (["lf"], .ofChar '\n'), (["lo", "lower"], lower),
   (["nu", "numeric"], numeric), (["le", "oletter"], otherLetter),
   (["sc", "scontinue"], .ofLines
    ["002C-002D 003A-003B 037E 055D 060C-060D 07F8 1802 1808 2013-2014 3001 FE10-FE11 FE13-FE14 FE31-FE32",
     "FE50-FE51 FE54-FE55 FE58 FE63 FF0C-FF0D FF1A-FF1B FF64"]),
   (["st", "sterm"], sentenceTerminal.without aTerm), (["se", "sep"], separator),
   (["sp"], (blank.without separator).without lineEnd), (["up", "upper"], upper)]

def sentenceBreak? (name : String) : Option CodeRanges :=
  (sentenceBreaks.find? (·.1.contains name)).map Prod.snd

end TemplateQuery.Regex
