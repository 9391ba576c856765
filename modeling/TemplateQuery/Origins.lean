import TemplateQuery.Json.Printer

/-! Which place of the template each captured variable comes from, in the order of first capture. -/

set_option autoImplicit false

namespace TemplateQuery

structure Origins where
  /-- Variables with their places; no variable occurs twice. -/
  entries : List (String × String) := []
  deriving DecidableEq, Repr, Inhabited

namespace Origins

/-- A name that is there already keeps its position and gets the new place. -/
def insertInto (name origin : String) : List (String × String) → List (String × String)
  | [] => [(name, origin)]
  | entry :: rest =>
    if entry.1 = name then (name, origin) :: rest else entry :: insertInto name origin rest

def insert (o : Origins) (name origin : String) : Origins := { entries := insertInto name origin o.entries }

def ofEntries (entries : List (String × String)) : Origins :=
  entries.foldl (fun o (name, origin) => o.insert name origin) {}

def get? (o : Origins) (name : String) : Option String := o.entries.lookup name

def hasOrigin (o : Origins) (origin : String) : Bool := o.entries.any (·.2 == origin)

def size (o : Origins) : Nat := o.entries.length

def isEmpty (o : Origins) : Bool := o.entries.isEmpty

def toJson (o : Origins) : Json := .object (o.entries.map fun (name, origin) => (name, .string origin))

def note (name origin : String) : String := " @origin " ++ name ++ " " ++ origin

def notes (o : Origins) : List String := o.entries.map fun (name, origin) => note name origin

end Origins

end TemplateQuery
