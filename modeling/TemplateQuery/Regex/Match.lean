import TemplateQuery.Regex.Parser
import TemplateQuery.Regex.Program

/-! Matching. All ways through a program are followed together, one character at a time, in order of
preference; two ways that meet at an instruction are one from there on, the preferred one. The match
found is the leftmost one, and among those the preferred one. -/

set_option autoImplicit false

namespace TemplateQuery.Regex

abbrev Slots := Array (Option Nat)

structure Thread where
  address : Nat
  slots : Slots

structure Position where
  index : Nat
  before : Option Char
  after : Option Char

namespace Program

/-- Follow every instruction that takes no character. Answers the threads that wait for a character or
accept, in order of preference. -/
def settle (p : Program) (at_ : Position) : Nat → List Thread → Array Bool → List Thread → List Thread
  | 0, _, _, settled => settled.reverse
  | _, [], _, settled => settled.reverse
  | fuel + 1, t :: todo, seen, settled =>
    if seen.getD t.address true then p.settle at_ fuel todo seen settled
    else
      let seen := seen.setIfInBounds t.address true
      match p.instructions.getD t.address .accept with
      | .jump target => p.settle at_ fuel (⟨target, t.slots⟩ :: todo) seen settled
      | .fork first second => p.settle at_ fuel (⟨first, t.slots⟩ :: ⟨second, t.slots⟩ :: todo) seen settled
      | .save slot =>
        p.settle at_ fuel (⟨t.address + 1, t.slots.setIfInBounds slot (some at_.index)⟩ :: todo) seen settled
      | .look l isWord =>
        if l.holds isWord at_.before at_.after then
          p.settle at_ fuel (⟨t.address + 1, t.slots⟩ :: todo) seen settled
        else p.settle at_ fuel todo seen settled
      | .take _ | .accept => p.settle at_ fuel todo seen (t :: settled)

def settleAll (p : Program) (at_ : Position) (threads : List Thread) : List Thread :=
  p.settle at_ (threads.length + 2 * p.instructions.size + 1) threads
    (Array.replicate p.instructions.size false) []

def accepts (p : Program) (t : Thread) : Bool :=
  match p.instructions.getD t.address .accept with
  | .accept => true
  | _ => false

def advance? (p : Program) (c : Char) (t : Thread) : Option Thread :=
  match p.instructions.getD t.address .accept with
  | .take set => if set.has c then some ⟨t.address + 1, t.slots⟩ else none
  | _ => none

def start (p : Program) : Thread := ⟨0, Array.replicate p.slots none⟩

/-- What is preferred to a match at a position, and the best match so far. -/
def arrive (p : Program) (at_ : Position) (threads : List Thread) (found : Option Slots) :
    List Thread × Option Slots :=
  -- As long as nothing is found a new attempt is made at every position.
  let waiting := p.settleAll at_ (if found.isNone then threads ++ [p.start] else threads)
  (waiting.takeWhile fun t => !p.accepts t, ((waiting.find? p.accepts).map Thread.slots).or found)

/-- Go on through the text from a position. Threads behind an accepting one are dropped. -/
def searchFrom (p : Program) (index : Nat) (before : Option Char) (threads : List Thread) (found : Option Slots) :
    List Char → Option Slots
  | [] => (p.arrive ⟨index, before, none⟩ threads found).2
  | c :: rest =>
    let (preferred, found) := p.arrive ⟨index, before, some c⟩ threads found
    if preferred.isEmpty && found.isSome then found
    else p.searchFrom (index + 1) (some c) (preferred.filterMap (p.advance? c)) found rest

end Program

structure Matcher where
  program : Program
  names : List (String × Nat)

structure Found where
  slots : Slots

namespace Found

def span? (f : Found) (group : Nat) : Option (Nat × Nat) := do
  let first ← f.slots.getD (2 * group) none
  let last ← f.slots.getD (2 * group + 1) none
  return (first, last)

end Found

namespace Matcher

def ofText? (s : Settings) (pattern : List Char) : Option Matcher := do
  let parsed ← parse? s pattern
  let program ← Program.ofPattern? parsed.pattern parsed.groups.count
  return ⟨program, parsed.groups.names⟩

def find? (m : Matcher) (text : List Char) (index : Nat) : Option Found :=
  let before := if index = 0 then none else (text.drop (index - 1)).head?
  (m.program.searchFrom index before [] none (text.drop index)).map Found.mk

def isMatch (m : Matcher) (text : List Char) : Bool := (m.find? text 0).isSome

def matchesFrom (m : Matcher) (text : List Char) : Nat → Nat → Option Nat → List (Nat × Nat × Found)
  | 0, _, _ => []
  | fuel + 1, index, last =>
    match m.find? text index with
    | none => []
    | some found =>
      match found.span? 0 with
      | none => []
      | some (first, stop) =>
        -- An empty match is passed over where the match before it ended.
        if first = stop && some stop == last then
          if index < text.length then m.matchesFrom text fuel (index + 1) last else []
        else (first, stop, found) :: m.matchesFrom text fuel stop (some stop)

def findAll (m : Matcher) (text : List Char) : List (Nat × Nat × Found) :=
  m.matchesFrom text (2 * text.length + 2) 0 none

end Matcher

end TemplateQuery.Regex
