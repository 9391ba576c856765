/-! Positions in a text: UTF-8 byte offsets, lines and columns. -/

set_option autoImplicit false

namespace TemplateQuery.Text

def byteSize : List Char → Nat
  | [] => 0
  | c :: cs => c.utf8Size + byteSize cs

@[simp]
theorem byteSize_append (xs ys : List Char) : byteSize (xs ++ ys) = byteSize xs + byteSize ys := by
  induction xs with
  | nil => simp [byteSize]
  | cons c xs ih => simp [byteSize, ih, Nat.add_assoc]

/-- The longest beginning of at most `n` bytes. -/
def takeBytes : Nat → List Char → List Char
  | _, [] => []
  | n, c :: cs => if c.utf8Size ≤ n then c :: takeBytes (n - c.utf8Size) cs else []

def dropBytes : Nat → List Char → List Char
  | _, [] => []
  | n, c :: cs => if c.utf8Size ≤ n then dropBytes (n - c.utf8Size) cs else c :: cs

theorem takeBytes_append_dropBytes (n : Nat) (cs : List Char) : takeBytes n cs ++ dropBytes n cs = cs := by
  induction cs generalizing n with
  | nil => rfl
  | cons c cs ih =>
    simp only [takeBytes, dropBytes]
    split <;> simp_all

theorem dropBytes_byteSize (front back : List Char) : dropBytes (byteSize front) (front ++ back) = back := by
  induction front with
  | nil =>
    cases back with
    | nil => rfl
    | cons c back =>
      have := Char.utf8Size_pos c
      simp only [List.nil_append, dropBytes, byteSize]
      rw [if_neg (by omega)]
  | cons c front ih => simp [dropBytes, byteSize, ih]

theorem takeBytes_byteSize (front back : List Char) : takeBytes (byteSize front) (front ++ back) = front := by
  have whole := takeBytes_append_dropBytes (byteSize front) (front ++ back)
  rw [dropBytes_byteSize] at whole
  exact List.append_cancel_right whole

def slice (start stop : Nat) (cs : List Char) : List Char := takeBytes (stop - start) (dropBytes start cs)

theorem slice_append (front middle back : List Char) :
    slice (byteSize front) (byteSize (front ++ middle)) (front ++ middle ++ back) = middle := by
  rw [slice, byteSize_append, Nat.add_sub_cancel_left, List.append_assoc, dropBytes_byteSize, takeBytes_byteSize]

/-- Line and column after a text that began at the given ones. Only a line feed ends a line;
columns count characters. -/
def advance (line column : Nat) : List Char → Nat × Nat
  | [] => (line, column)
  | c :: cs => if c = '\n' then advance (line + 1) 1 cs else advance line (column + 1) cs

def lineColumn (offset : Nat) (cs : List Char) : Nat × Nat := advance 1 1 (takeBytes offset cs)

def linesFrom (current : List Char) : List Char → List (List Char)
  | [] => if current.isEmpty then [] else [current.reverse]
  | c :: cs =>
    if c = '\n' then
      (match current with
        | '\r' :: front => front.reverse
        | whole => whole.reverse) :: linesFrom [] cs
    else linesFrom (c :: current) cs

/-- The lines of a text without their ends. A line ends in a line feed, with or without a carriage
return before it; the last one may end with the text. -/
def lines (cs : List Char) : List (List Char) := linesFrom [] cs

end TemplateQuery.Text
