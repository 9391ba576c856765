import TemplateQuery.Regex.Age
import TemplateQuery.Regex.GraphemeBreak
import TemplateQuery.Regex.ScriptExtension
import TemplateQuery.Regex.SentenceBreak
import TemplateQuery.Regex.WordBreak

/-! Properties of characters by the names that patterns give them. -/

set_option autoImplicit false

namespace TemplateQuery.Regex

open Text

/-- Names are compared by their ASCII characters without case, blanks, hyphens and underscores, and without a leading
`is`. -/
def looseName (name : List Char) : String :=
  let plain (cs : List Char) := (cs.filter fun c => c.toNat < 0x80 && c != ' ' && c != '_' && c != '-').map Char.toLower
  let bare := match name with
    | i :: s :: rest =>
      -- What would leave only a `c` is kept whole.
      if i.toLower == 'i' && s.toLower == 's' then if plain rest == ['c'] then ['i', 's', 'c'] else plain rest
      else plain name
    | _ => plain name
  String.ofList bare

/-- General categories, with three names that are none of the standard's categories. -/
def generalCategory? (name : String) : Option CodeRanges :=
  match name with
  | "any" => some [⟨0, CodeRanges.lastCode⟩]
  | "ascii" => some [⟨0, 0x7F⟩]
  | "assigned" => (category? "cn").map CodeRanges.outside
  | _ => category? name

def property? (name : List Char) : Option CodeRanges :=
  let loose := looseName name
  ((binaryProperty? loose).or (generalCategory? loose)).or (script? loose)

def propertyValue? (name value : List Char) : Option CodeRanges :=
  let loose := looseName value
  match looseName name with
  | "generalcategory" | "gc" => generalCategory? loose
  | "script" | "sc" => script? loose
  | "scriptextensions" | "scx" => scriptExtension? loose
  | "age" => age? loose
  | "graphemeclusterbreak" | "gcb" => graphemeBreak? loose
  | "wordbreak" | "wb" => wordBreak? loose
  | "sentencebreak" | "sb" => sentenceBreak? loose
  | _ => none

end TemplateQuery.Regex
