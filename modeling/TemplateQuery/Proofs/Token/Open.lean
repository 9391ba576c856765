import TemplateQuery.Proofs.Text.Infix
import TemplateQuery.Proofs.Token.Cut

/-! Strings that are left open. Three quotes that no three others end are read as an empty string, but only as long as
no three quotes come later. A text keeps its tokens before others that have none, or when it leaves no such string
open. -/

set_option autoImplicit false

namespace TemplateQuery.Token

open Text

variable {quote sep : Char} {tail : List Char}

def Calm (quote : Char) (cs : List Char) : Prop := ¬ [quote, quote, quote] <:+: cs

instance (cs : List Char) : Decidable (Calm quote cs) := inferInstanceAs (Decidable ¬ _)

theorem calm_of_absent {cs : List Char} (absent : quote ∉ cs) : Calm quote cs :=
  fun found => absent (found.subset (by simp))

theorem Calm.append {front back : List Char} (first : Calm quote front) {c : Char} (other : c ≠ quote)
    (last : Calm quote back) : Calm quote (front ++ c :: back) :=
  fun found => (infix_append_cons (by simpa using other) found).elim first last

theorem Calm.cons {cs : List Char} (calm : Calm quote cs) (c : Char) (few : cs.take 2 ≠ [quote, quote]) :
    Calm quote (c :: cs) := by
  intro found
  rcases List.infix_cons_iff.mp found with first | later
  · obtain ⟨-, rest⟩ := List.cons_prefix_cons.mp first
    exact few (List.prefix_iff_eq_take.mp rest).symm
  · exact calm later

theorem Calm.of_cons {c : Char} {cs : List Char} (calm : Calm quote (c :: cs)) : Calm quote cs :=
  fun found => calm (List.infix_cons found)

theorem Calm.after {front back : List Char} (absent : quote ∉ front) (last : Calm quote back) :
    Calm quote (front ++ back) :=
  fun found => last (infix_of_append absent found)

/-- A string that is left open is not ended by what follows a space, when that has no three quotes. -/
theorem longBody?_stays_open (space : isSpace sep = true) (mark : isQuote quote = true) {cs : List Char}
    (unended : longBody? quote cs = none) (calm : Calm quote tail) : longBody? quote (cs ++ sep :: tail) = none := by
  have plain := ne_slash_of_isQuote mark
  have apart : sep ≠ quote := by
    have unquoted : isQuote sep = false := of_space space (by decide)
    rintro rfl
    rw [unquoted] at mark
    cases mark
  have alone : ∀ body inner, longBody? quote (cs ++ sep :: tail) ≠ some (body, inner ++ sep :: tail) := by
    intro body inner read
    rw [(severs_longBody? plain cs).found read] at unended
    cases unended
  cases read : longBody? quote (cs ++ sep :: tail) with
  | none => rfl
  | some found =>
    obtain ⟨body, rest⟩ := found
    obtain ⟨front, whole⟩ := append_of_longBody? read
    rcases List.append_eq_append_iff.mp whole with ⟨beyond, ends, later⟩ | ⟨inner, -, rfl⟩
    · cases beyond with
      | nil =>
        obtain rfl : sep :: tail = rest := later
        exact absurd read (alone body [])
      | cons c beyond =>
        -- The quotes that end the string stand behind the space, since the space is none of them.
        obtain ⟨rfl, rfl⟩ := List.cons.inj later
        rcases List.append_eq_append_iff.mp ends with ⟨between, -, cut⟩ | ⟨between, -, cut⟩
        · have member : sep ∈ [quote, quote, quote] := by rw [cut]; simp
          exact absurd (by simpa using member) apart
        · cases between with
          | nil => exact absurd (List.cons.inj cut).1 apart
          | cons d between =>
            obtain ⟨rfl, rfl⟩ := List.cons.inj cut
            exact absurd ⟨between, rest, by simp⟩ calm
    · exact absurd read (alone body inner)

/-- Whether three apostrophes at the front open a string that never ends. -/
def dangles : List Char → Bool
  | '\'' :: '\'' :: '\'' :: rest => (longBody? '\'' rest).isNone
  | _ => false

def leavesOpen (cs : List Char) : Bool :=
  match _ : skip cs with
  | [] => false
  | c :: rest =>
    dangles (c :: rest) ||
      match _ : scanOne? (c :: rest) with
      | none => false
      | some (_, after) => leavesOpen after
termination_by cs.length
decreasing_by
  have shorter := (rest_of_scanOne? ‹scanOne? (c :: rest) = some (_, after)›).length_lt
  have := length_skipFrom_le false cs
  rw [show skipFrom false cs = c :: rest from ‹skip cs = c :: rest›] at this
  omega

theorem leavesOpen_of_token {cs rest after : List Char} {c : Char} {kind : Kind} (skipped : skip cs = c :: rest)
    (scanned : scanOne? (c :: rest) = some (kind, after)) :
    leavesOpen cs = (dangles (c :: rest) || leavesOpen after) := by
  rw [leavesOpen]
  split
  · next other => rw [skipped] at other; cases other
  · next same =>
    rw [skipped] at same
    cases same
    split
    · next other => rw [scanned] at other; cases other
    · next found =>
      rw [scanned] at found
      cases found
      rfl

/-- What follows a space leaves the tokens of a text as they are, when it has no three quotes in a row, or three
apostrophes only behind a text that leaves no string open with them. -/
theorem Lexes.fits_of_calm {cs : List Char} {kinds : List Kind} (lexes : Lexes cs kinds)
    (unopened : ¬ ['$', '\x7b'] <:+: cs) (space : isSpace sep = true) (calm : Calm '"' tail)
    (quiet : leavesOpen cs = false ∨ Calm '\'' tail) : AtTokens (Fits (sep :: tail)) cs := by
  induction lexes with
  | done skipped => exact .done skipped
  | @token cs rest after c kind kinds skipped scanned inner ih =>
    have inside : c :: rest <:+ cs := skipped ▸ skipFrom_suffix false cs
    have unopenedRest : ¬ ['$', '\x7b'] <:+: c :: rest := fun found => unopened (found.trans inside.isInfix)
    obtain ⟨word, -, cut⟩ := rest_of_scanOne? scanned
    have within : after <:+ c :: rest := ⟨word, cut.symm⟩
    rw [leavesOpen_of_token skipped scanned, Bool.or_eq_false_iff] at quiet
    refine .token skipped scanned ⟨fun more same => unopenedRest ⟨[], more, same.symm⟩, ?_⟩
      (ih (fun found => unopenedRest (found.trans within.isInfix)) (quiet.imp_left And.right))
    intro quote inner mark opened unended
    refine longBody?_stays_open space mark unended ?_
    rcases isQuote_cases mark with rfl | rfl
    · exact calm
    · rcases quiet with closed | calm
      · rw [opened] at closed
        simp [dangles, unended] at closed
      · exact calm

end TemplateQuery.Token
