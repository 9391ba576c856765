import TemplateQuery.Regex.Weight

/-! Patterns as programs. An instruction that takes a character goes on to the next one; a fork tries
its first target in preference to its second. -/

set_option autoImplicit false

namespace TemplateQuery.Regex

open Text

inductive Instruction where
  | take (set : CodeRanges)
  | fork (first second : Nat)
  | jump (target : Nat)
  | save (slot : Nat)
  | look (l : Look) (isWord : Char → Bool)
  | accept

instance : Inhabited Instruction := ⟨.accept⟩

namespace Pattern

def size : Pattern → Nat
  | empty => 0
  | chars _ => 1
  | look _ _ => 1
  | repeated least most _ body =>
    match most with
    | some most => least * body.size + (most - least) * (body.size + 1)
    | none => if least = 0 then body.size + 2 else least * body.size + 1
  | group _ body => body.size + 2
  | seq first second => first.size + second.size
  | choice first second => first.size + second.size + 2

def forkTo (greedy : Bool) (inside outside : Nat) : Instruction :=
  if greedy then .fork inside outside else .fork outside inside

def copies (code : Nat → List Instruction) (size : Nat) : Nat → Nat → List Instruction
  | 0, _ => []
  | count + 1, start => code start ++ copies code size count (start + size)

def optional (code : Nat → List Instruction) (size : Nat) (greedy : Bool) (leave : Nat) :
    Nat → Nat → List Instruction
  | 0, _ => []
  | count + 1, start =>
    forkTo greedy (start + 1) leave :: code (start + 1) ++ optional code size greedy leave count (start + 1 + size)

/-- The instructions of a pattern from an address on. -/
def code : Pattern → Nat → List Instruction
  | empty, _ => []
  | chars set, _ => [.take set]
  | look l isWord, _ => [.look l isWord]
  | group index body, start => .save (2 * index) :: body.code (start + 1) ++ [.save (2 * index + 1)]
  | seq first second, start => first.code start ++ second.code (start + first.size)
  | choice first second, start =>
    .fork (start + 1) (start + first.size + 2) :: first.code (start + 1)
      ++ .jump (start + first.size + second.size + 2) :: second.code (start + first.size + 2)
  | repeated least (some most) greedy body, start =>
    copies body.code body.size least start
      ++ optional body.code body.size greedy
          (start + least * body.size + (most - least) * (body.size + 1)) (most - least)
          (start + least * body.size)
  | repeated 0 none greedy body, start =>
    let leave := start + body.size + 2
    if body.needsChar then forkTo greedy (start + 1) leave :: body.code (start + 1) ++ [.jump start]
    -- What may take no character is entered before it is decided whether to repeat it.
    else forkTo greedy (start + 1) leave :: body.code (start + 1) ++ [forkTo greedy (start + 1) leave]
  | repeated (least + 1) none greedy body, start =>
    copies body.code body.size (least + 1) start
      ++ [forkTo greedy (start + least * body.size) (start + (least + 1) * body.size + 1)]

end Pattern

structure Program where
  instructions : Array Instruction
  /-- Places for the ends of the groups, and of the match in the first two. -/
  slots : Nat

namespace Program

def ofPattern? (pattern : Pattern) (groups : Nat) : Option Program :=
  if pattern.isLight then
    some ⟨((Pattern.group 0 pattern).code 0 ++ [Instruction.accept]).toArray, 2 * (groups + 1)⟩
  else none

end Program

end TemplateQuery.Regex
