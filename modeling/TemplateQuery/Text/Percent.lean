import TemplateQuery.Text.Hex

/-! Percent-encoding: every byte of a character that is not unreserved is written `%HH`. -/

set_option autoImplicit false

namespace TemplateQuery.Text

def isUnreserved (c : Char) : Bool :=
  c.isAlphanum || c == '-' || c == '.' || c == '_' || c == '~'

def percentByte (b : UInt8) : List Char := '%' :: hexTextUpper 2 b.toNat

def percentEncode (cs : List Char) : List Char :=
  cs.flatMap fun c => if isUnreserved c then [c] else (String.utf8EncodeChar c).flatMap percentByte

end TemplateQuery.Text
