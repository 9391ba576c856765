import TemplateQuery.Json
import TemplateQuery.Text.Hex

/-! Documents to JSON text, on one line or indented. -/

set_option autoImplicit false

namespace TemplateQuery.Json

open Text

def escaped (c : Char) : List Char :=
  match c with
  | '"' => ['\\', '"']
  | '\\' => ['\\', '\\']
  | '\x08' => ['\\', 'b']
  | '\x0c' => ['\\', 'f']
  | '\n' => ['\\', 'n']
  | '\r' => ['\\', 'r']
  | '\t' => ['\\', 't']
  | c => if c.toNat < 0x20 then '\\' :: 'u' :: hexText 4 c.toNat else [c]

def quoted (text : String) : String := "\"" ++ String.ofList (text.toList.flatMap escaped) ++ "\""

mutual

def compact : Json → String
  | .null | .unusable => "null"
  | .bool b => if b then "true" else "false"
  | .number text => text
  | .string text => quoted text
  | .array items => "[" ++ compactItems items ++ "]"
  | .object fields => "\x7b" ++ compactFields fields ++ "\x7d"

def compactItems : List Json → String
  | [] => ""
  | [item] => compact item
  | item :: items => compact item ++ "," ++ compactItems items

def compactFields : List (String × Json) → String
  | [] => ""
  | [(name, item)] => quoted name ++ ":" ++ compact item
  | (name, item) :: fields => quoted name ++ ":" ++ compact item ++ "," ++ compactFields fields

end

def prettyTexts (fields : List (String × String)) : String :=
  if fields.isEmpty then "\x7b\x7d"
  else
    "\x7b\n" ++
      ",\n".intercalate (fields.map fun (name, text) => "  " ++ quoted name ++ ": " ++ quoted text) ++
      "\n\x7d"

end TemplateQuery.Json
