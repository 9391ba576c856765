/-! JSON documents. Objects keep their fields in order and may repeat a name; numbers keep their
spelling. -/

set_option autoImplicit false

namespace TemplateQuery

inductive Json where
  | null
  | bool (value : Bool)
  | number (text : String)
  | string (text : String)
  /-- A string or a field name that escapes half of a character. It can be passed over, not used. -/
  | unusable
  | array (items : List Json)
  | object (fields : List (String × Json))
  deriving Repr, Inhabited

namespace Json

def ofNat (n : Nat) : Json := .number (toString n)

def ofInt (n : Int) : Json := .number (toString n)

end Json

end TemplateQuery
