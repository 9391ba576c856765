import TemplateQuery.Eval.Expression
import TemplateQuery.Prologue

/-! Queries over the empty group, which has one solution without bindings. Its join with the inline data
is projected row by row; then repeated rows are dropped where that is asked for, and the rows wanted are
cut out. -/

set_option autoImplicit false

namespace TemplateQuery

inductive Modifier where
  | distinct
  | reduced
  deriving DecidableEq, Repr

inductive Column where
  | var (name : String)
  | computed (e : Expression) (name : String)

def Column.name : Column → String
  | .var name => name
  | .computed _ name => name

inductive Projection where
  | star
  | columns (items : List Column)

structure Inline where
  names : List String
  rows : List (List (Option Term))

structure Query where
  prologue : Prologue
  modifier : Option Modifier
  projection : Projection
  limit : Option Nat
  offset : Option Nat
  data : Option Inline

structure Results where
  names : List String
  rows : List Solution

namespace Query

/-- The bindings of one row of inline data. A name given twice has its last value. -/
def rowSolution (names : List String) (row : List (Option Term)) : Solution :=
  (names.zip row).foldl (fun s (name, cell) => match cell with
    | some t => s.insert name t
    | none => s) []

def solutions (q : Query) : List Solution :=
  match q.data with
  | none => [[]]
  | some data => data.rows.map (rowSolution data.names)

def columnNames (q : Query) : List String :=
  match q.projection with
  | .columns items => items.map Column.name
  | .star => (q.data.map Inline.names).getD []

/-- An expression's value as a term, or `none` when it fails. Without an outcome there is no row either. -/
def computeTerm (c : Context) (e : Expression) (next : Nat) : Option (Option Term × Nat) :=
  -- Blank nodes made for names are forgotten from one expression to the next.
  match e.eval c { next } with
  | some (.ok v, draws) => v.toTerm.map fun t => (some t, draws.next)
  | some (.error _, draws) => some (none, draws.next)
  | none => none

/-- The columns of a row, from left to right. -/
def projectFrom (now : DateTime) (base : Option String) (row : Solution) (out : Solution) (next : Nat) :
    List Column → Option (Solution × Nat)
  | [] => some (out, next)
  | .var name :: rest =>
    let out := match row.get? name with
      | some t => out.insert name t
      | none => out
    projectFrom now base row out next rest
  | .computed e name :: rest =>
    match computeTerm ⟨row, now, base⟩ e next with
    -- Later expressions see the column.
    | some (some t, next) => projectFrom now base (row.insert name t) (out.insert name t) next rest
    | some (none, next) => projectFrom now base row out next rest
    | none => none

def projectRow (q : Query) (now : DateTime) (row : Solution) (next : Nat) : Option (Solution × Nat) :=
  match q.projection with
  | .star => some (row, next)
  | .columns items => projectFrom now q.prologue.base row [] next items

def projectAll (q : Query) (now : DateTime) (next : Nat) : List Solution → Option (List Solution × Nat)
  | [] => some ([], next)
  | row :: rest => do
    let (out, next) ← q.projectRow now row next
    let (outs, next) ← q.projectAll now next rest
    return (out :: outs, next)

def sameRow (names : List String) (a b : Solution) : Bool :=
  names.all fun name => match a.get? name, b.get? name with
    | some t, some u => t.same u
    | none, none => true
    | _, _ => false

def dropRepeats (names : List String) (rows : List Solution) : List Solution :=
  (rows.foldl (fun kept row => if kept.any (sameRow names row) then kept else row :: kept) []).reverse

def pick (q : Query) (rows : List Solution) : List Solution :=
  let rows := if q.modifier.isSome then dropRepeats q.columnNames rows else rows
  let rows := rows.drop (q.offset.getD 0)
  match q.limit with
  | some n => rows.take n
  | none => rows

def run (q : Query) (now : DateTime) (next : Nat) : Option (Results × Nat) := do
  let (rows, next) ← q.projectAll now next q.solutions
  return (⟨q.columnNames, q.pick rows⟩, next)

end Query

namespace Results

def first? (r : Results) (name : String) : Option Term := r.rows.head?.bind (·.get? name)

end Results

end TemplateQuery
