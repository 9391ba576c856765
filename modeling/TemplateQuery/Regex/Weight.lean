import TemplateQuery.Number.Digits
import TemplateQuery.Regex.Pattern

/-! The room that patterns take as automata over the bytes of UTF-8, read forwards and backwards. A state
takes 32 bytes, a way out by a range of bytes 8 more, and an alternative 4. -/

set_option autoImplicit false

namespace TemplateQuery.Regex

open Text

abbrev ByteSpan := List CodeRange

namespace ByteSpan

/-- The characters from `a` to `b` in a byte from `lead` on and `count` bytes of six bits each. -/
def ofDigits (lead : Nat) : Nat → Nat → Nat → List ByteSpan
  | 0, a, b => [[⟨lead + a, lead + b⟩]]
  | count + 1, a, b =>
    let unit := 64 ^ (count + 1)
    let top := a / unit
    let bottom := b / unit
    if top = bottom then (ofDigits 0x80 count (a % unit) (b % unit)).map (⟨lead + top, lead + top⟩ :: ·)
    else
      let cutLow := a % unit != 0
      let cutHigh := b % unit + 1 != unit
      let low :=
        if cutLow then (ofDigits 0x80 count (a % unit) (unit - 1)).map (⟨lead + top, lead + top⟩ :: ·)
        else []
      let high :=
        if cutHigh then (ofDigits 0x80 count 0 (b % unit)).map (⟨lead + bottom, lead + bottom⟩ :: ·)
        else []
      let first := if cutLow then top + 1 else top
      let last := if cutHigh then bottom - 1 else bottom
      let whole :=
        if first ≤ last then [⟨lead + first, lead + last⟩ :: List.replicate (count + 1) ⟨0x80, 0xBF⟩]
        else []
      low ++ whole ++ high

/-- The characters that take the same number of bytes: their range, the first byte's offset, and how many
bytes follow it. -/
def lengths : List (CodeRange × Nat × Nat) :=
  [(⟨0, 0x7F⟩, 0, 0), (⟨0x80, 0x7FF⟩, 0xC0, 1), (⟨0x800, 0xD7FF⟩, 0xE0, 2), (⟨0xE000, 0xFFFF⟩, 0xE0, 2),
   (⟨0x10000, 0x10FFFF⟩, 0xF0, 3)]

def ofRange (r : CodeRange) : List ByteSpan :=
  lengths.flatMap fun (length, lead, count) =>
    let first := max r.first length.first
    let last := min r.last length.last
    if first ≤ last then ofDigits lead count first last else []

def shared : ByteSpan → ByteSpan → Nat
  | a :: as, b :: bs => if a = b then shared as bs + 1 else 0
  | _, _ => 0

def fronts (before : ByteSpan) : List ByteSpan → Nat
  | [] => 0
  | span :: rest => span.length - shared before span + fronts span rest

def byFront : List ByteSpan → List (CodeRange × List ByteSpan)
  | [] => []
  | [] :: rest => byFront rest
  | (r :: span) :: rest =>
    match byFront rest with
    | (r', spans) :: more => if r = r' then (r, span :: spans) :: more else (r, [span]) :: (r', spans) :: more
    | [] => [(r, [span])]

abbrev States := List (List (CodeRange × Nat))

/-- Add the states of spans that have no more than `fuel` ranges, where equal ends are one. Answers the
state that they start in; zero is where all end. -/
def states : Nat → List ByteSpan → States → Nat × States
  | 0, _, known => (0, known)
  | fuel + 1, spans, known =>
    if spans.all List.isEmpty then (0, known)
    else
      let (ways, known) := (byFront spans).foldl
        (fun (ways, known) (r, tails) =>
          let (target, known) := states fuel tails known
          (ways ++ [(r, target)], known))
        ([], known)
      match known.idxOf? ways with
      | some i => (i + 1, known)
      | none => (known.length + 1, known ++ [ways])

end ByteSpan

structure Weight where
  forwards : Nat
  backwards : Nat

namespace Weight

def both (n : Nat) : Weight := ⟨n, n⟩

def plus (a b : Weight) : Weight := ⟨a.forwards + b.forwards, a.backwards + b.backwards⟩

def scale (n : Nat) (w : Weight) : Weight := ⟨n * w.forwards, n * w.backwards⟩

/-- A single character is a row of bytes; ASCII characters are the ways out of one state. Forwards, spans with
the same end share it; backwards, those with the same front do. -/
def ofSet (set : CodeRanges) : Weight :=
  let spans := set.flatMap ByteSpan.ofRange
  match set, spans with
  | [⟨first, last⟩], [span] =>
    if first = last then both (32 * span.length) else ofSpans set spans
  | _, _ => ofSpans set spans
where
  ofSpans (set : CodeRanges) (spans : List ByteSpan) : Weight :=
    if set.all (·.last < 0x80) then both (64 + 8 * set.length)
    else
      let states := (ByteSpan.states 5 spans []).2
      ⟨states.foldl (fun room ways => room + 32 + 8 * ways.length) 32,
        64 + 32 * ByteSpan.fronts [] spans + 4 * spans.length⟩

end Weight

namespace Pattern

def weight : Pattern → Weight
  | empty => .both 32
  | look _ _ => .both 32
  | chars set => .ofSet set
  | group _ body => body.weight.plus ⟨64, 0⟩
  | seq first second => first.weight.plus second.weight
  | choice (choice a b) second => ((choice a b).weight.plus second.weight).plus (.both 4)
  | choice first second => (first.weight.plus second.weight).plus (.both 72)
  | repeated least none _ body =>
    if least = 0 then body.weight.plus (.both (if body.needsChar then 40 else 112))
    else (body.weight.scale least).plus (.both 40)
  | repeated least (some most) _ body =>
    let w := body.weight
    let required := if least = 0 then Weight.both 32 else w.scale least
    if least = most then required
    else if least = 0 && most = 1 then w.plus (.both 72)
    else (required.plus (.both 32)).plus ((w.plus (.both 40)).scale (most - least))

/-- A pattern may take ten mebibytes in either direction, with what it takes to start and to accept. -/
def isLight (p : Pattern) : Bool :=
  let w := (p.weight.plus ⟨64, 0⟩).plus (.both 144)
  let most := 10 * 2 ^ (20 : Nat)
  w.forwards ≤ most && w.backwards ≤ most

end Pattern

end TemplateQuery.Regex
