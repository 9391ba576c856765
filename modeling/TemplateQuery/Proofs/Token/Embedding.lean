import Mathlib.Data.List.Chain
import TemplateQuery.Proofs.Token.Readers

/-! A text inside another. Where a blank and other text follow it, it has the tokens that it has alone, unless it ends
inside a comment, leaves a brace open, or has two strings side by side. -/

set_option autoImplicit false

namespace TemplateQuery.Token

/-! ## Comments -/

/-- Whether a comment is open after what is skipped at the front of a text, when the text is nothing but that. -/
def skipsInto : Bool → List Char → Bool
  | inComment, [] => inComment
  | true, c :: cs => skipsInto (!(c == '\n' || c == '\r')) cs
  | false, c :: cs =>
    if isSpace c then skipsInto false cs
    else if c = '#' then skipsInto true cs
    else false

def endsInComment (cs : List Char) : Bool :=
  match _ : skip cs with
  | [] => skipsInto false cs
  | c :: rest =>
    match _ : scanOne? (c :: rest) with
    | none => false
    | some (_, after) => endsInComment after
termination_by cs.length
decreasing_by
  have shorter := (rest_of_scanOne? ‹scanOne? (c :: rest) = some (_, after)›).length_lt
  have := length_skipFrom_le false cs
  rw [show skipFrom false cs = c :: rest from ‹skip cs = c :: rest›] at this
  omega

theorem endsInComment_of_done {cs : List Char} (skipped : skip cs = []) : endsInComment cs = skipsInto false cs := by
  rw [endsInComment]
  split
  · rfl
  · next other => rw [skipped] at other; cases other

theorem endsInComment_of_token {cs rest after : List Char} {c : Char} {kind : Kind} (skipped : skip cs = c :: rest)
    (scanned : scanOne? (c :: rest) = some (kind, after)) : endsInComment cs = endsInComment after := by
  rw [endsInComment]
  split
  · next other => rw [skipped] at other; cases other
  · next same =>
    rw [skipped] at same
    cases same
    split
    · next other => rw [scanned] at other; cases other
    · next found =>
      rw [scanned] at found
      cases found
      rfl

theorem skipFrom_append {inComment : Bool} {cs : List Char} (stops : skipFrom inComment cs ≠ []) (tail : List Char) :
    skipFrom inComment (cs ++ tail) = skipFrom inComment cs ++ tail := by
  fun_induction skipFrom inComment cs with
  | case1 => exact absurd rfl stops
  | case2 c cs ih => rw [List.cons_append, skipFrom, ih stops]
  | case3 c cs space ih => rw [List.cons_append, skipFrom, if_pos space, ih stops]
  | case4 cs space ih => rw [List.cons_append, skipFrom, if_neg space, if_pos rfl, ih stops]
  | case5 c cs space other => rw [List.cons_append, skipFrom, if_neg space, if_neg other]

theorem skipFrom_past {inComment : Bool} {cs : List Char} (skipped : skipFrom inComment cs = []) (tail : List Char) :
    skipFrom inComment (cs ++ tail) = skipFrom (skipsInto inComment cs) tail := by
  fun_induction skipFrom inComment cs with
  | case1 => rw [skipsInto, List.nil_append]
  | case2 c cs ih => exact ih skipped
  | case3 c cs space ih =>
    rw [skipsInto, if_pos space, List.cons_append, skipFrom, if_pos space]
    exact ih skipped
  | case4 cs space ih =>
    rw [skipsInto, if_neg space, if_pos rfl, List.cons_append, skipFrom, if_neg space, if_pos rfl]
    exact ih skipped
  | case5 => cases skipped

theorem skipFrom_space {inComment : Bool} {sep : Char} (space : isSpace sep = true)
    (closed : sep = '\n' ∨ inComment = false) (tail : List Char) :
    skipFrom inComment (sep :: tail) = skipFrom false tail := by
  cases inComment with
  | false => rw [skipFrom, if_pos space]
  | true =>
    obtain rfl : sep = '\n' := by simpa using closed
    rfl

theorem skipFrom_suffix (inComment : Bool) (cs : List Char) : skipFrom inComment cs <:+ cs := by
  fun_induction skipFrom inComment cs with
  | case1 => exact List.suffix_refl _
  | case2 c cs ih | case3 c cs _ ih | case4 cs _ ih => exact ih.trans (List.suffix_cons _ _)
  | case5 => exact List.suffix_refl _

theorem skip_skipFrom (inComment : Bool) (cs : List Char) : skip (skipFrom inComment cs) = skipFrom inComment cs := by
  fun_induction skipFrom inComment cs with
  | case1 => rfl
  | case2 c cs ih | case3 c cs _ ih | case4 cs _ ih => exact ih
  | case5 c cs space other => rw [skip, skipFrom, if_neg space, if_neg other]

/-! ## The way to a token -/

/-- From `cs`, after tokens of the kinds `used` and what is skipped between them, `after` is left, with nothing to skip
at its front. -/
inductive Reaches : List Char → List Kind → List Char → Prop
  | here {cs after : List Char} (skipped : skip cs = after) : Reaches cs [] after
  | token {cs rest middle after : List Char} {c : Char} {kind : Kind} {used : List Kind} (skipped : skip cs = c :: rest)
      (scanned : scanOne? (c :: rest) = some (kind, middle)) (later : Reaches middle used after) :
      Reaches cs (kind :: used) after

theorem Reaches.suffix {cs after : List Char} {used : List Kind} (reaches : Reaches cs used after) : after <:+ cs := by
  induction reaches with
  | here skipped => exact skipped ▸ skipFrom_suffix false _
  | @token cs rest middle after c kind used skipped scanned later ih =>
    obtain ⟨word, -, cut⟩ := rest_of_scanOne? scanned
    have inside := skipFrom_suffix false cs
    rw [show skipFrom false cs = c :: rest from skipped, cut] at inside
    exact ih.trans ((List.suffix_append word middle).trans inside)

theorem Reaches.skip_eq {cs after : List Char} {used : List Kind} (reaches : Reaches cs used after) :
    skip after = after := by
  induction reaches with
  | here skipped => subst skipped; exact skip_skipFrom false _
  | token _ _ _ ih => exact ih

theorem Reaches.lexes {cs after : List Char} {used kinds : List Kind} (reaches : Reaches cs used after)
    (later : Lexes after kinds) : Lexes cs (used ++ kinds) := by
  induction reaches with
  | here skipped =>
    subst skipped
    exact later.skip_eq (skip_skipFrom false _).symm
  | token skipped scanned _ ih => exact .token skipped scanned (ih later)

theorem Reaches.unique {cs after other : List Char} {used : List Kind} (reaches : Reaches cs used after)
    (again : Reaches cs used other) : after = other := by
  induction reaches with
  | here skipped =>
    cases again with
    | here same => exact skipped.symm.trans same
  | token skipped scanned _ ih =>
    cases again with
    | token same found later =>
      rw [skipped] at same
      cases same
      rw [scanned] at found
      cases found
      exact ih later

/-! ## A text with more text after it -/

def Kind.isString : Kind → Bool
  | .string _ => true
  | _ => false

def Spaced (kinds : List Kind) : Prop := kinds.IsChain fun a b => (a.isString && b.isString) = false

theorem Spaced.ended {kinds : List Kind} (spaced : Spaced kinds) : Spaced (kinds ++ [Kind.eof]) := by
  refine List.isChain_append.mpr ⟨spaced, .singleton _, ?_⟩
  simp [Kind.isString]

theorem isString_of_string? {cs rest : List Char} {kind : Kind} (found : string? cs = some (kind, rest)) :
    kind.isString = true := by
  unfold string? at found
  split at found
  · cases found
  · split at found
    · obtain ⟨_, -, same⟩ := Option.map_eq_some_iff.mp found
      cases same
      rfl
    · cases found

theorem not_spaced_of_unended {cs rest : List Char} {kind : Kind} {kinds : List Kind} (unended : Unended cs)
    (scanned : scanOne? cs = some (kind, rest)) (later : Lexes rest kinds) : ¬ Spaced (kind :: kinds) := by
  -- A long string that never ends is read as an empty one, and what comes right after it as another.
  obtain ⟨quote, inner, mark, rfl, long⟩ := unended
  have which := isQuote_cases mark
  have plain : isSpace quote = false ∧ quote ≠ '#' := by rcases which with rfl | rfl <;> decide
  have empty : shortBody? quote (quote :: quote :: inner) = some ([], quote :: inner) := by
    rcases which with rfl | rfl <;> simp [shortBody?]
  rw [scanOne?_quote mark] at scanned
  have read : kind = .string (String.ofList []) ∧ rest = quote :: inner := by
    have mark' : (decide (quote = '"') || decide (quote = '\'')) = true := mark
    simp [string?, mark', long, empty] at scanned
    simp [scanned]
  obtain ⟨rfl, rfl⟩ := read
  have front : skip (quote :: inner) = quote :: inner := by simp [skip, skipFrom, plain]
  intro spaced
  cases later with
  | done skipped => rw [front] at skipped; cases skipped
  | token skipped second _ =>
    rw [front] at skipped
    obtain ⟨rfl, rfl⟩ := List.cons.inj skipped
    rw [scanOne?_quote mark] at second
    have apart := (List.isChain_cons_cons.mp spaced).1
    rw [isString_of_string? second] at apart
    cases apart

inductive AtTokens (P : List Char → Prop) : List Char → Prop
  | done {cs : List Char} (skipped : skip cs = []) : AtTokens P cs
  | token {cs rest after : List Char} {c : Char} {kind : Kind} (skipped : skip cs = c :: rest)
      (scanned : scanOne? (c :: rest) = some (kind, after)) (holds : P (c :: rest)) (later : AtTokens P after) :
      AtTokens P cs

/-- What a text asks of its rest at a token, where `tail` is to follow it. -/
def Fits (tail cs : List Char) : Prop := (∀ rest, cs ≠ '$' :: '\x7b' :: rest) ∧ StaysOpen cs tail

theorem Lexes.reaches {cs : List Char} {used : List Kind} (lexes : Lexes cs (used ++ [Kind.eof])) {sep d : Char}
    {more : List Char} (space : isSpace sep = true) (shut : isSpace d = false ∧ d ≠ ']')
    (fits : AtTokens (Fits (sep :: d :: more)) cs) (closed : sep = '\n' ∨ endsInComment cs = false) :
    Reaches (cs ++ sep :: d :: more) used (skip (d :: more)) := by
  generalize shape : used ++ [Kind.eof] = kinds at lexes
  -- Token by token: each is scanned alike with more text behind it, and the end of the text is skipped up to there.
  induction lexes generalizing used with
  | @done cs skipped =>
    obtain rfl : used = [] := by
      have := congrArg List.length shape
      simpa using this
    rw [endsInComment_of_done skipped] at closed
    refine .here ?_
    rw [skip, skipFrom_past skipped, skipFrom_space space closed]
    rfl
  | @token cs rest after c kind kinds skipped scanned inner ih =>
    have starts : skipFrom false cs = c :: rest := skipped
    have front := skipFrom_append (by rw [starts]; simp) (sep :: d :: more)
    rw [starts] at front
    rw [endsInComment_of_token skipped scanned] at closed
    cases fits with
    | done other => rw [skipped] at other; cases other
    | token same again holds others =>
      rw [skipped] at same
      cases same
      rw [scanned] at again
      cases again
      cases used with
      | nil =>
        obtain ⟨-, rfl⟩ := List.cons.inj shape
        cases inner
      | cons first used =>
        obtain ⟨rfl, same⟩ := List.cons.inj shape
        exact .token front (scanOne?_before space shut scanned holds.1 holds.2) (ih others closed same)

theorem Lexes.fits {cs : List Char} {kinds : List Kind} (lexes : Lexes cs kinds) (spaced : Spaced kinds)
    (unbraced : '\x7d' ∉ cs) (tail : List Char) : AtTokens (Fits tail) cs := by
  induction lexes with
  | done skipped => exact .done skipped
  | @token cs rest after c kind kinds skipped scanned inner ih =>
    have inside := skipFrom_suffix false cs
    rw [show skipFrom false cs = c :: rest from skipped] at inside
    have unbracedRest : '\x7d' ∉ c :: rest := fun member => unbraced (inside.subset member)
    have unopened : ∀ inner, c :: rest ≠ '$' :: '\x7b' :: inner := by
      intro inner same
      rw [same] at scanned unbracedRest
      rw [scanOne?_unbraced (by simp_all)] at scanned
      cases scanned
    have ended : ¬ Unended (c :: rest) := fun unended => not_spaced_of_unended unended scanned inner spaced
    obtain ⟨word, -, cut⟩ := rest_of_scanOne? scanned
    have unbracedAfter : '\x7d' ∉ after := by
      rw [cut] at unbracedRest
      exact fun member => unbracedRest (List.mem_append_right word member)
    exact .token skipped scanned ⟨unopened, .of_ended ended⟩ (ih spaced.tail unbracedAfter)

theorem Lexes.before {cs : List Char} {used : List Kind} (lexes : Lexes cs (used ++ [Kind.eof]))
    (spaced : Spaced used) (unbraced : '\x7d' ∉ cs) (closed : endsInComment cs = false) {d : Char}
    (shut : isSpace d = false ∧ d ≠ ']') {more : List Char} {next : List Kind} (later : Lexes (d :: more) next) :
    Lexes (cs ++ ' ' :: d :: more) (used ++ next) := by
  have reaches := lexes.reaches rfl shut (lexes.fits spaced.ended unbraced (' ' :: d :: more)) (.inr closed)
  exact reaches.lexes (later.skip_eq (skip_skipFrom false _))

end TemplateQuery.Token
