import TemplateQuery.Regex.Derived
import TemplateQuery.Regex.Script

/-! Classes of characters by which text is cut into words. -/

set_option autoImplicit false

namespace TemplateQuery.Regex

open Text

namespace WordBreak

def extend : CodeRanges := (graphemeExtend.joined (inCategories ["mc"])).joined emojiModifier

def notFormat : CodeRanges := .ofLines ["200B 200D"]

def formatting : CodeRanges :=
  ((format.without graphemeExtend).without prependedConcatenationMark).without notFormat

def katakana : CodeRanges := (inScripts ["kana"]).joined (.ofLines ["3031-3035 309B-309C 30A0 30FC FF70"])

def hebrewLetter : CodeRanges := (inScripts ["hebr"]).common (inCategories ["lo"])

def unspaced : CodeRanges :=
  inScripts ["hira", "thai", "laoo", "mymr", "khmr", "tale", "talu", "lana", "tavt", "ahom"]

def wordSign : CodeRanges := .ofLines
  ["00B8 02C2-02C5 02D2-02D7 02DE-02DF 02E5-02EB 02ED 02EF-02FF 055A-055C 055E 058A 05F3 070F A708-A716",
   "A720-A721 A789-A78A AB5B"]

def letter : CodeRanges :=
  (alphabetic.joined wordSign).without
    (CodeRanges.normal (ideographic ++ katakana ++ unspaced ++ extend ++ hebrewLetter))

/-- A decimal separator and a digit of Tham are numeric without being decimal digits. -/
def otherNumeric : CodeRanges := .ofLines ["066B 19DA"]

def abbreviationMark : CodeRanges := .ofChar '\u070F'

def numeric : CodeRanges :=
  (digit.joined otherNumeric).joined (prependedConcatenationMark.without abbreviationMark)

end WordBreak

open WordBreak in
def wordBreaks : List (List String × CodeRanges) :=
  [(["le", "aletter"], letter), (["cr"], .ofChar '\r'), (["dq", "doublequote"], .ofChar '"'), (["extend"], extend),
   (["ex", "extendnumlet"], (inCategories ["pc"]).joined (.ofChar '\u202F')), (["fo", "format"], formatting),
   (["hl", "hebrewletter"], hebrewLetter), (["ka", "katakana"], katakana), (["lf"], .ofChar '\n'),
   (["ml", "midletter"], .ofLines ["003A 00B7 0387 055F 05F4 2027 FE13 FE55 FF1A"]),
   (["mn", "midnum"], .ofLines ["002C 003B 037E 0589 060C-060D 066C 07F8 2044 FE50 FE54 FF0C FF1B"]),
   (["mb", "midnumlet"], .ofLines ["002E 2018-2019 2024 FE52 FF07 FF0E"]),
   (["nl", "newline"], .ofLines ["000B-000C 0085 2028-2029"]), (["nu", "numeric"], numeric),
   (["ri", "regionalindicator"], regionalIndicator), (["sq", "singlequote"], .ofChar '\''),
   (["wsegspace"], .ofLines ["0020 1680 2000-2006 2008-200A 205F 3000"]), (["zwj"], .ofChar '\u200D')]

def wordBreak? (name : String) : Option CodeRanges := (wordBreaks.find? (·.1.contains name)).map Prod.snd

end TemplateQuery.Regex
