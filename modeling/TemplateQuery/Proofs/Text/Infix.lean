import TemplateQuery.Text.Search

/-! Where a text can occur in another. A text that lacks a character is not found across it, and one that lacks what
starts an escape is found in an escaped text only where it is in the text itself. -/

set_option autoImplicit false

namespace TemplateQuery.Text

variable {needle front back : List Char} {c : Char}

theorem prefix_append_cons (front : List Char) (other : c ∉ needle) (found : needle <+: front ++ c :: back) :
    needle <+: front := by
  rcases List.prefix_or_prefix_of_prefix found (List.prefix_append front _) with inside | ⟨rest, rfl⟩
  · exact inside
  · cases rest with
    | nil => simp
    | cons d rest =>
      obtain ⟨same, -⟩ := List.cons_prefix_cons.mp ((List.prefix_append_right_inj front).mp found)
      simp [same] at other

theorem infix_append_cons (other : c ∉ needle) (found : needle <:+: front ++ c :: back) :
    needle <:+: front ∨ needle <:+: back := by
  induction front with
  | nil =>
    rcases List.infix_cons_iff.mp found with first | later
    · exact .inl (prefix_append_cons [] other first).isInfix
    · exact .inr later
  | cons d front ih =>
    rcases List.infix_cons_iff.mp found with first | later
    · exact .inl (prefix_append_cons (d :: front) other first).isInfix
    · exact (ih later).imp_left List.infix_cons

/-- A text that a blank begins, and that has no other, is found before a blank or from it on. -/
theorem infix_append_blank (whole : ' ' ∉ needle) (found : ' ' :: needle <:+: front ++ ' ' :: back) :
    ' ' :: needle <:+: front ∨ ' ' :: needle <:+: ' ' :: back := by
  induction front with
  | nil => exact .inr found
  | cons d front ih =>
    rcases List.infix_cons_iff.mp found with first | later
    · obtain ⟨rfl, rest⟩ := List.cons_prefix_cons.mp first
      exact .inl (List.cons_prefix_cons.mpr ⟨rfl, prefix_append_cons front whole rest⟩).isInfix
    · exact (ih later).imp_left List.infix_cons

section Escapes

/-- Escapes of single characters that a text cannot be drawn from: they begin with a character that it lacks, and its
own first character is not in them. -/
def Escapes (escape : Char → List Char) (needle : List Char) : Prop :=
  ∀ c, escape c = [c] ∨ ∃ d rest, escape c = d :: rest ∧ d ∉ needle ∧ ∀ e ∈ needle.head?, e ∉ rest

variable {escape : Char → List Char} {text : List Char}

theorem prefix_of_escaped {word : List Char} (escapes : Escapes escape needle) (within : word ⊆ needle)
    (found : word <+: text.flatMap escape) : word <+: text := by
  induction word generalizing text with
  | nil => simp
  | cons a word ih =>
    cases text with
    | nil => simp at found
    | cons c text =>
      rw [List.flatMap_cons] at found
      rcases escapes c with same | ⟨d, rest, same, other, -⟩
      · rw [same] at found
        obtain ⟨rfl, later⟩ := List.cons_prefix_cons.mp found
        exact List.cons_prefix_cons.mpr ⟨rfl, ih (fun e member => within (List.mem_cons_of_mem a member)) later⟩
      · rw [same, List.cons_append] at found
        obtain ⟨rfl, -⟩ := List.cons_prefix_cons.mp found
        exact absurd (within List.mem_cons_self) other

theorem infix_of_append {a : Char} {word : List Char} (absent : a ∉ front) (found : a :: word <:+: front ++ back) :
    a :: word <:+: back := by
  induction front with
  | nil => exact found
  | cons d front ih =>
    rcases List.infix_cons_iff.mp found with first | later
    · obtain ⟨rfl, -⟩ := List.cons_prefix_cons.mp first
      simp at absent
    · exact ih (fun member => absent (List.mem_cons_of_mem d member)) later

theorem infix_of_escaped (escapes : Escapes escape needle) (found : needle <:+: text.flatMap escape) :
    needle <:+: text := by
  cases needle with
  | nil => simp
  | cons a word =>
    induction text with
    | nil => exact found
    | cons c text ih =>
      rw [List.flatMap_cons] at found
      rcases escapes c with same | ⟨d, rest, same, other, absent⟩
      · rw [same] at found
        rcases List.infix_cons_iff.mp found with first | later
        · have front : a :: word <+: (c :: text).flatMap escape := by rwa [List.flatMap_cons, same]
          exact (prefix_of_escaped escapes (fun _ member => member) front).isInfix
        · exact List.infix_cons (ih later)
      · have away : a ∉ escape c := by
          rw [same]
          simp only [List.mem_cons, not_or] at other ⊢
          exact ⟨fun same => other.1 same.symm, absent a rfl⟩
        exact List.infix_cons (ih (infix_of_append away found))

end Escapes

theorem contains_cons (needle text : List Char) (c : Char) :
    contains needle (c :: text) = (needle.isPrefixOf (c :: text) || contains needle text) := by
  unfold contains
  rw [splitFirst?]
  split <;> simp_all

theorem contains_iff_infix {text : List Char} : contains needle text = true ↔ needle <:+: text := by
  induction text with
  | nil => cases needle <;> simp [contains, splitFirst?]
  | cons c text ih => rw [contains_cons, Bool.or_eq_true, List.isPrefixOf_iff_prefix, ih, List.infix_cons_iff]

end TemplateQuery.Text
