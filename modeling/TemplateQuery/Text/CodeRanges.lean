import TemplateQuery.Text.Hex

/-! Sets of characters as ranges of code points, written as hexadecimal text: `0041-005A 00AA`. A set is
kept in order, with a gap between any two of its ranges. -/

set_option autoImplicit false

namespace TemplateQuery.Text

structure CodeRange where
  first : Nat
  last : Nat
  deriving DecidableEq, Repr

abbrev CodeRanges := List CodeRange

namespace CodeRange

def holds (r : CodeRange) (n : Nat) : Bool := r.first ≤ n && n ≤ r.last

def ofWord? (word : List Char) : Option CodeRange :=
  let first := word.takeWhile (· != '-')
  match word.dropWhile (· != '-') with
  | [] => (hexNumber? first).map fun n => ⟨n, n⟩
  | _ :: last => (hexNumber? first).bind fun a => (hexNumber? last).map fun b => ⟨a, b⟩

end CodeRange

namespace CodeRanges

def holds (rs : CodeRanges) (n : Nat) : Bool := rs.any (·.holds n)

def has (rs : CodeRanges) (c : Char) : Bool := rs.holds c.toNat

def ofLines (lines : List String) : CodeRanges :=
  lines.flatMap fun line => (line.splitOn " ").filterMap fun word => CodeRange.ofWord? word.toList

def ofChar (c : Char) : CodeRanges := [⟨c.toNat, c.toNat⟩]

/-- One range for those of a sorted list that overlap or touch. -/
def fuse : CodeRanges → CodeRanges
  | a :: b :: rest =>
    if b.first ≤ a.last + 1 then fuse (⟨a.first, max a.last b.last⟩ :: rest) else a :: fuse (b :: rest)
  | rs => rs
termination_by rs => rs.length

def normal (rs : CodeRanges) : CodeRanges := fuse (rs.mergeSort fun a b => a.first ≤ b.first)

def joined (a b : CodeRanges) : CodeRanges := normal (a ++ b)

def lastCode : Nat := 0x10FFFF

def gapsFrom (next : Nat) : CodeRanges → CodeRanges
  | [] => if next ≤ lastCode then [⟨next, lastCode⟩] else []
  | r :: rest =>
    if next < r.first then ⟨next, r.first - 1⟩ :: gapsFrom (r.last + 1) rest else gapsFrom (r.last + 1) rest

def outside (rs : CodeRanges) : CodeRanges := gapsFrom 0 rs

def common : CodeRanges → CodeRanges → CodeRanges
  | a :: as, b :: bs =>
    let first := max a.first b.first
    let last := min a.last b.last
    let rest := if a.last < b.last then common as (b :: bs) else common (a :: as) bs
    if first ≤ last then ⟨first, last⟩ :: rest else rest
  | _, _ => []
termination_by as bs => as.length + bs.length

def without (a b : CodeRanges) : CodeRanges := a.common b.outside

def apart (a b : CodeRanges) : CodeRanges := (a.without b).joined (b.without a)

end CodeRanges

end TemplateQuery.Text
