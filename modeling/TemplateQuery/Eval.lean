import TemplateQuery.EvalError

/-! Evaluation under way. What is drawn anew at each use, and the blank nodes already made for given
names, is a state that is carried along and that a failure does not undo. -/

set_option autoImplicit false

namespace TemplateQuery

/-- A supply of things never drawn before, and the labels given to names so far. -/
structure Draws where
  next : Nat := 0
  labels : List (String × String) := []
  deriving Repr, DecidableEq

abbrev Eval := ExceptT EvalError (StateT Draws Option)

namespace Draws

def uuidDigits (n : Nat) : List Char :=
  let low := n % 2 ^ (62 : Nat)
  let middle := n / 2 ^ (62 : Nat) % 2 ^ (12 : Nat)
  let high := n / 2 ^ (74 : Nat) % 2 ^ (48 : Nat)
  Text.hexText 12 high ++ '4' :: Text.hexText 3 middle ++ Text.hexText 16 (2 ^ (63 : Nat) + low)

def uuidText (n : Nat) : List Char :=
  let digits := uuidDigits n
  let group (start size : Nat) := (digits.drop start).take size
  group 0 8 ++ '-' :: group 8 4 ++ '-' :: group 12 4 ++ '-' :: group 16 4 ++ '-' :: group 20 12

def labelText (n : Nat) : String := String.ofList ('b' :: uuidDigits n)

/-- The number `n` scattered over the interval from zero up to one. -/
def unitNumber (n : Nat) : Double :=
  .ofRatio false ((n * 6364136223846793005 + 1442695040888963407) % 2 ^ (64 : Nat) / 2 ^ (11 : Nat)) (2 ^ (53 : Nat))

end Draws

namespace Eval

def ofExcept {α : Type} : Except TypeFault α → Eval α
  | .ok a => pure a
  | .error fault => throw (.type fault)

def failType {α : Type} (fault : TypeFault) : Eval α := throw (.type fault)

def ofOutcome {α : Type} (o : Outcome α) : Eval α := fun draws => o.map fun outcome => (outcome, draws)

def attempt {α : Type} (e : Eval α) : Eval (Except EvalError α) := fun draws =>
  (e draws).map fun (outcome, draws) => (.ok outcome, draws)

def draw : Eval Nat := do
  let draws ← get
  set { draws with next := draws.next + 1 }
  return draws.next

def freshLabel : Eval String := do return Draws.labelText (← draw)

def labelFor (name : String) : Eval String := do
  match (← get).labels.lookup name with
  | some label => return label
  | none =>
    let label ← freshLabel
    modify fun draws => { draws with labels := (name, label) :: draws.labels }
    return label

def truth (v : Value) : Eval Bool :=
  match v.truth? with
  | some b => pure b
  | none => failType (.noTruth v)

end Eval

abbrev Solution := List (String × Term)

namespace Solution

def get? (s : Solution) (name : String) : Option Term := s.lookup name

def insert (s : Solution) (name : String) (t : Term) : Solution :=
  match s with
  | [] => [(name, t)]
  | (n, u) :: rest => if n = name then (name, t) :: rest else (n, u) :: insert rest name t

end Solution

structure Context where
  row : Solution
  now : DateTime
  base : Option String

end TemplateQuery
