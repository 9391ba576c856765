/-! Occurrences of one text in another. Everything rests on `splitFirst?`, the cut at the first
occurrence. -/

set_option autoImplicit false

namespace TemplateQuery.Text

def splitFirst? (needle : List Char) : List Char → Option (List Char × List Char)
  | [] => if needle.isEmpty then some ([], []) else none
  | c :: cs =>
    if needle.isPrefixOf (c :: cs) then some ([], (c :: cs).drop needle.length)
    else (splitFirst? needle cs).map fun (before, after) => (c :: before, after)

theorem length_of_splitFirst? {needle text before after : List Char}
    (found : splitFirst? needle text = some (before, after)) : after.length ≤ text.length := by
  induction text generalizing before with
  | nil =>
    unfold splitFirst? at found
    split at found <;> cases found
    simp
  | cons c cs ih =>
    unfold splitFirst? at found
    split at found
    · cases found
      simp
    · obtain ⟨cut, atCut, same⟩ := Option.map_eq_some_iff.mp found
      cases same
      have := ih atCut
      simp only [List.length_cons]
      omega

def contains (needle text : List Char) : Bool := (splitFirst? needle text).isSome

def dropFront? (front text : List Char) : Option (List Char) :=
  if front.isPrefixOf text then some (text.drop front.length) else none

theorem length_of_dropFront? {front text rest : List Char} (found : dropFront? front text = some rest) :
    rest.length ≤ text.length := by
  unfold dropFront? at found
  split at found
  · cases found
    simp
  · cases found

/-- The cut at the first character that satisfies `p`; the character itself is in neither part. -/
def splitAt? (p : Char → Bool) : List Char → Option (List Char × List Char)
  | [] => none
  | c :: cs => if p c then some ([], cs) else (splitAt? p cs).map fun (before, after) => (c :: before, after)

theorem length_of_splitAt? {p : Char → Bool} {text before after : List Char}
    (found : splitAt? p text = some (before, after)) : after.length < text.length := by
  induction text generalizing before with
  | nil => cases found
  | cons c cs ih =>
    unfold splitAt? at found
    split at found
    · cases found
      simp
    · obtain ⟨cut, atCut, same⟩ := Option.map_eq_some_iff.mp found
      cases same
      have := ih atCut
      simp only [List.length_cons]
      omega

def splitAtLast? (p : Char → Bool) : List Char → Option (List Char × List Char)
  | [] => none
  | c :: cs =>
    match splitAtLast? p cs with
    | some (before, after) => some (c :: before, after)
    | none => if p c then some ([], cs) else none

end TemplateQuery.Text
