/-! Settings documents: tables of texts and flags, nested by headers and by dotted keys. A table is
defined once; how it came about decides what may still be added to it. -/

set_option autoImplicit false

namespace TemplateQuery

inductive TableKind where
  /-- A header of its own. -/
  | headed
  /-- The header of a table inside it. -/
  | implied
  /-- Dotted keys. -/
  | dotted
  /-- Braces; such a table is complete. -/
  | closed
  deriving DecidableEq, Repr

inductive Toml where
  | text (content : String)
  | flag (content : Bool)
  /-- An array without items; others hold nothing that a setting takes. -/
  | emptyArray
  | table (kind : TableKind) (entries : List (String × Toml))
  deriving Repr

namespace Toml

abbrev Entries := List (String × Toml)

def replace (key : String) (content : Toml) : Entries → Entries
  | [] => []
  | entry :: rest => if entry.1 = key then (key, content) :: rest else entry :: replace key content rest

/-- Set a dotted key. It may not be there yet, and the tables on its way are those of other dotted
keys. -/
def assign? (content : Toml) : List String → Entries → Option Entries
  | [], _ => none
  | [key], entries => if (entries.lookup key).isSome then none else some (entries ++ [(key, content)])
  | key :: path, entries =>
    match entries.lookup key with
    | none => (assign? content path []).map fun inner => entries ++ [(key, .table .dotted inner)]
    | some (.table .dotted inner) =>
      (assign? content path inner).map fun inner => replace key (.table .dotted inner) entries
    | some _ => none

/-- Define the table of a header. It may be there only as implied. -/
def define? : List String → Entries → Option Entries
  | [], _ => none
  | [key], entries =>
    match entries.lookup key with
    | none => some (entries ++ [(key, .table .headed [])])
    | some (.table .implied inner) => some (replace key (.table .headed inner) entries)
    | some _ => none
  | key :: path, entries =>
    match entries.lookup key with
    | none => (define? path []).map fun inner => entries ++ [(key, .table .implied inner)]
    | some (.table .closed _) => none
    | some (.table kind inner) => (define? path inner).map fun inner => replace key (.table kind inner) entries
    | some _ => none

def assignIn? (content : Toml) (path : List String) : List String → Entries → Option Entries
  | [], entries => assign? content path entries
  | key :: header, entries =>
    match entries.lookup key with
    | some (.table kind inner) =>
      (assignIn? content path header inner).map fun inner => replace key (.table kind inner) entries
    | _ => none

end Toml

end TemplateQuery
