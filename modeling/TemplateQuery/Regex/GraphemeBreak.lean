import TemplateQuery.Regex.Derived

/-! Classes of characters by which text is cut into what readers take for single characters. -/

set_option autoImplicit false

namespace TemplateQuery.Regex

open Text

namespace GraphemeBreak

def extend : CodeRanges := graphemeExtend.joined emojiModifier

/-- The line ends and the joiners are classes of their own, or extend. -/
def notControl : CodeRanges := .ofLines ["000A 000D 200C-200D"]

def control : CodeRanges :=
  ((((inCategories ["zl", "zp", "cc", "cf"]).joined ((inCategories ["cn"]).common defaultIgnorable)).without
    notControl).without graphemeExtend).without prependedConcatenationMark

def precedingConsonant : CodeRanges := .ofLines
  ["0D4E 111C2-111C3 113D1 1193F 11941 11A84-11A89 11D46 11F02"]

def spacingVowel : CodeRanges := .ofLines ["0E33 0EB3"]

/-- Spacing marks after which a cluster may end. -/
def separateMark : CodeRanges := .ofLines
  ["102B-102C 1038 1062-1064 1067-106D 1083 1087-108C 108F 109A-109C 1A61 1A63-1A64 AA7B AA7D 11720-11721"]

def spacingMark : CodeRanges := (((inCategories ["mc"]).joined spacingVowel).without extend).without separateMark

/-- Hangul syllables come in rows of 28, and the first of each row has no trailing consonant. -/
def openSyllable : CodeRanges :=
  (List.range 399).map fun row => ⟨0xAC00 + 28 * row, 0xAC00 + 28 * row⟩

def syllable : CodeRanges := .ofLines ["AC00-D7A3"]

end GraphemeBreak

open GraphemeBreak in
def graphemeBreaks : List (List String × CodeRanges) :=
  [(["cn", "control"], control), (["cr"], .ofChar '\r'), (["ex", "extend"], extend),
   (["l"], .ofLines ["1100-115F A960-A97C"]), (["lf"], .ofChar '\n'), (["lv"], openSyllable),
   (["lvt"], syllable.without openSyllable), (["pp", "prepend"], prependedConcatenationMark.joined precedingConsonant),
   (["ri", "regionalindicator"], regionalIndicator), (["sm", "spacingmark"], spacingMark),
   (["t"], .ofLines ["11A8-11FF D7CB-D7FB"]), (["v"], .ofLines ["1160-11A7 D7B0-D7C6 16D63 16D67-16D6A"]),
   (["zwj"], .ofChar '\u200D')]

def graphemeBreak? (name : String) : Option CodeRanges :=
  (graphemeBreaks.find? (·.1.contains name)).map Prod.snd

end TemplateQuery.Regex
