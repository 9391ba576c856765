/-! Names handed out for labels and for resources. Labels repeat, so the first request for a label
gets the label itself and every later one the label with a number, as long as 32 bits hold it. A
resource keeps the name it was first given. -/

set_option autoImplicit false

namespace TemplateQuery

inductive Violation where
  /-- The query language does not allow it. -/
  | invalid (name : String)
  /-- The label was asked for too often. -/
  | exhausted (label : String)
  deriving DecidableEq, Repr, Inhabited

structure Registry where
  /-- The labels asked for so far, latest first. -/
  requests : List String := []
  /-- Keys of resources with their names, latest first. -/
  names : List (String × String) := []
  deriving DecidableEq, Repr, Inhabited

namespace Registry

def nth (label : String) : Nat → String
  | 0 => label
  | n + 1 => label ++ String.ofList (Nat.toDigits 10 (n + 1))

def fresh (r : Registry) (label : String) : Except Violation (String × Registry) :=
  let number := r.requests.count label
  -- Numbers have 32 bits.
  if number < UInt32.size then .ok (nth label number, { r with requests := label :: r.requests })
  else .error (.exhausted label)

def lookup (r : Registry) (key : String) : Option String := r.names.lookup key

/-- The name of a resource, made from the label at first sight. -/
def nameFor (r : Registry) (key : String) (label? : Option String) : Except Violation (Option String × Registry) :=
  match r.lookup key, label? with
  | some name, _ => .ok (some name, r)
  -- Without a label an unknown resource gets none.
  | none, none => .ok (none, r)
  | none, some label => do
    let (name, r) ← r.fresh label
    return (some name, { r with names := (key, name) :: r.names })

end Registry

end TemplateQuery
