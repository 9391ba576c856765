import TemplateQuery.Event

/-! Look-ahead over a source of events. The buffer pulls only as far as the deepest look asked for,
and what it pulled it never pulls again. -/

set_option autoImplicit false

namespace TemplateQuery.Event

structure Buffer where
  /-- Pulled and not yet taken. -/
  held : List Event
  /-- Not yet pulled. -/
  source : List Event
  deriving DecidableEq, Repr

namespace Buffer

def ofSource (source : List Event) : Buffer := { held := [], source }

def fill (b : Buffer) (count : Nat) : Buffer :=
  let missing := count - b.held.length
  { held := b.held ++ b.source.take missing, source := b.source.drop missing }

/-- The event `offset` places ahead. Offsets and numbers of events have 64 bits: there is no look at the greatest
offset, for which one more event would have to be held than can be counted. -/
def peek (b : Buffer) (offset : UInt64) : Option (Option Event × Buffer) :=
  if offset.toNat + 1 < UInt64.size then
    let b := b.fill (offset.toNat + 1)
    some (b.held[offset.toNat]?, b)
  else none

def next (b : Buffer) : Option Event × Buffer :=
  let b := b.fill 1
  (b.held.head?, { b with held := b.held.tail })

def size (b : Buffer) : Nat := b.held.length

end Buffer

end TemplateQuery.Event
