import TemplateQuery.Origins
import TemplateQuery.Text.Blank
import TemplateQuery.Text.Search

/-! Reading the origins of variables back from the comments of a query. -/

set_option autoImplicit false

namespace TemplateQuery.Origins

open Text

def mark : List Char := "# @origin ".toList

/-- A name up to the first white space, and a place from there to the end of its line; neither is
empty. -/
def readEntry? (cs : List Char) : Option ((String × String) × List Char) := do
  let (name, rest) ← splitAt? isBlank cs
  let (origin, after) ← splitAt? (· == '\n') rest
  if name.isEmpty || origin.isEmpty then none
  else some ((String.ofList name, String.ofList origin), after)

def readMarked? (cs : List Char) : Option ((String × String) × List Char) :=
  (dropFront? mark cs).bind readEntry?

theorem length_of_readMarked? {cs after : List Char} {entry : String × String}
    (read : readMarked? cs = some (entry, after)) : after.length < cs.length := by
  obtain ⟨body, atMark, read⟩ := Option.bind_eq_some_iff.mp read
  obtain ⟨⟨name, rest⟩, atName, read⟩ := Option.bind_eq_some_iff.mp read
  obtain ⟨⟨origin, final⟩, atOrigin, read⟩ := Option.bind_eq_some_iff.mp read
  have := length_of_dropFront? atMark
  have := length_of_splitAt? atName
  have := length_of_splitAt? atOrigin
  obtain ⟨_, same⟩ := Option.ite_none_left_eq_some.mp read
  simp only [Option.some.injEq, Prod.mk.injEq] at same
  obtain ⟨_, rfl⟩ := same
  omega

/-- All entries of a text, from the left and without overlap. -/
def scan (cs : List Char) : List (String × String) :=
  match cs with
  | [] => []
  | c :: rest =>
    match _ : readMarked? (c :: rest) with
    | some (entry, after) => entry :: scan after
    | none => scan rest
termination_by cs.length
decreasing_by
  · exact length_of_readMarked? ‹_›
  · simp

def ofQueryText (text : String) : Origins := ofEntries (scan text.toList)

end TemplateQuery.Origins
