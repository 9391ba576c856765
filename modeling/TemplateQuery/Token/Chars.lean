/-! Character classes of query text. -/

set_option autoImplicit false

namespace TemplateQuery.Token

def between (c : Char) (lo hi : Nat) : Bool := lo ≤ c.toNat && c.toNat ≤ hi

def isLetter (c : Char) : Bool :=
  between c 0x41 0x5A || between c 0x61 0x7A || between c 0xC0 0xD6 || between c 0xD8 0xF6 ||
    between c 0xF8 0x2FF || between c 0x370 0x37D || between c 0x37F 0x1FFF || between c 0x200C 0x200D ||
    between c 0x2070 0x218F || between c 0x2C00 0x2FEF || between c 0x3001 0xD7FF ||
    between c 0xF900 0xFDCF || between c 0xFDF0 0xFFFD || between c 0x10000 0xEFFFF

def isLetterOrUnderscore (c : Char) : Bool := isLetter c || c == '_'

/-- Marks that may continue a name: the middle dot, combining marks and ties. -/
def isJoiner (c : Char) : Bool := c.toNat == 0xB7 || between c 0x300 0x36F || between c 0x203F 0x2040

def isNameChar (c : Char) : Bool := isLetterOrUnderscore c || c == '-' || c.isDigit || isJoiner c

def isLocalStart (c : Char) : Bool := isLetterOrUnderscore c || c == ':' || c.isDigit

def isSpace (c : Char) : Bool := c == ' ' || c == '\t' || c == '\r' || c == '\n'

def isIriChar (c : Char) : Bool :=
  !(c == '<' || c == '>' || c == '"' || c == '\x7b' || c == '\x7d' || c == '|' || c == '^' || c.toNat == 0x60 ||
    c == '\\' || c.toNat ≤ 0x20)

def isVarStart (c : Char) : Bool := isLetterOrUnderscore c || c.isDigit

def isVarChar (c : Char) : Bool := isLetterOrUnderscore c || c.isDigit || isJoiner c

def isVarName : List Char → Bool
  | [] => false
  | c :: cs => isVarStart c && cs.all isVarChar

end TemplateQuery.Token
