import TemplateQuery.Prologue
import TemplateQuery.Proofs.Text.Splitting

/-! Absolute IRIs: those that start with a scheme and a colon. Whatever is appended to one is absolute, and so is
whatever is resolved against one. -/

set_option autoImplicit false

namespace TemplateQuery.Iri

open Text

theorem cutAt_append {mark : Char} {front : List Char} (clear : ∀ c ∈ front, c ≠ mark) (cs : List Char) :
    cutAt mark (front ++ cs) = (front ++ (cutAt mark cs).1, (cutAt mark cs).2) := by
  have past : ∀ c ∈ front, (c == mark) = false := fun c member => beq_false_of_ne (clear c member)
  unfold cutAt
  rw [splitAt?_append past]
  cases splitAt? (· == mark) cs <;> rfl

theorem cutAt_fst_prefix (mark : Char) (cs : List Char) : ∃ rest, cs = (cutAt mark cs).1 ++ rest := by
  unfold cutAt
  split
  · next before after found =>
    obtain ⟨c, -, same⟩ := append_of_splitAt? found
    exact ⟨c :: after, same⟩
  · exact ⟨[], by simp⟩

theorem isScheme_plain {scheme : List Char} (valid : isScheme scheme = true) :
    ∀ c ∈ scheme, c ≠ '#' ∧ c ≠ '?' ∧ c ≠ ':' := by
  -- Nothing that ends a component stands inside a scheme.
  have plain : ∀ c : Char, (c.isAlphanum || c == '+' || c == '-' || c == '.') = true → c ≠ '#' ∧ c ≠ '?' ∧ c ≠ ':' := by
    intro c allowed
    refine ⟨?_, ?_, ?_⟩ <;> rintro rfl <;> exact absurd allowed (by decide)
  cases scheme with
  | nil => cases valid
  | cons c cs =>
    simp only [isScheme, Bool.and_eq_true, List.all_eq_true] at valid
    intro d member
    rcases List.mem_cons.mp member with rfl | member
    · exact plain d (by simp [Char.isAlphanum, valid.1])
    · exact plain d (valid.2 d member)

theorem cutScheme_append {scheme : List Char} (valid : isScheme scheme = true) (cs : List Char) :
    cutScheme (scheme ++ ':' :: cs) = (some scheme, cs) := by
  have past : ∀ c ∈ scheme, (c == ':') = false :=
    fun c member => beq_false_of_ne (isScheme_plain valid c member).2.2
  simp [cutScheme, splitAt?_append past, splitAt?, valid]

theorem of_cutScheme {scheme cs : List Char} (found : (cutScheme cs).1 = some scheme) :
    isScheme scheme = true ∧ ∃ rest, cs = scheme ++ ':' :: rest := by
  unfold cutScheme at found
  split at found
  · next before after atColon =>
    split at found
    · next valid =>
      cases found
      obtain ⟨c, colon, same⟩ := append_of_splitAt? atColon
      exact ⟨valid, after, by rw [same, eq_of_beq colon]⟩
    · cases found
  · cases found

theorem split_scheme (cs : List Char) : (split cs).scheme = (cutScheme (cutAt '?' (cutAt '#' cs).1).1).1 := rfl

theorem split_scheme_eq_some_iff {cs scheme : List Char} :
    (split cs).scheme = some scheme ↔ isScheme scheme = true ∧ ∃ rest, cs = scheme ++ ':' :: rest := by
  rw [split_scheme]
  constructor
  · intro found
    obtain ⟨valid, rest, same⟩ := of_cutScheme found
    obtain ⟨query, cut⟩ := cutAt_fst_prefix '?' (cutAt '#' cs).1
    obtain ⟨fragment, whole⟩ := cutAt_fst_prefix '#' cs
    refine ⟨valid, rest ++ query ++ fragment, ?_⟩
    rw [whole, cut, same]
    simp
  · rintro ⟨valid, rest, rfl⟩
    have plain := isScheme_plain valid
    have hash : ∀ c ∈ scheme ++ [':'], c ≠ '#' := by
      intro c member
      rcases List.mem_append.mp member with member | member
      · exact (plain c member).1
      · rw [List.mem_singleton.mp member]; decide
    have question : ∀ c ∈ scheme ++ [':'], c ≠ '?' := by
      intro c member
      rcases List.mem_append.mp member with member | member
      · exact (plain c member).2.1
      · rw [List.mem_singleton.mp member]; decide
    have front : ∀ cs : List Char, scheme ++ ':' :: cs = (scheme ++ [':']) ++ cs := by simp
    rw [front, cutAt_append hash, cutAt_append question, ← front, cutScheme_append valid]

theorem isAbsolute_iff {iri : String} :
    isAbsolute iri = true ↔ ∃ scheme rest, isScheme scheme = true ∧ iri.toList = scheme ++ ':' :: rest := by
  rw [isAbsolute, Option.isSome_iff_exists]
  constructor
  · rintro ⟨scheme, found⟩
    obtain ⟨valid, rest, same⟩ := split_scheme_eq_some_iff.mp found
    exact ⟨scheme, rest, valid, same⟩
  · rintro ⟨scheme, rest, valid, same⟩
    exact ⟨scheme, split_scheme_eq_some_iff.mpr ⟨valid, rest, same⟩⟩

theorem isAbsolute_append {iri : String} (absolute : isAbsolute iri = true) (text : String) :
    isAbsolute (iri ++ text) = true := by
  obtain ⟨scheme, rest, valid, same⟩ := isAbsolute_iff.mp absolute
  exact isAbsolute_iff.mpr ⟨scheme, rest ++ text.toList, valid, by simp [same]⟩

theorem target_scheme (base reference : Components) :
    (target base reference).scheme = reference.scheme.or base.scheme := by
  unfold target
  cases found : reference.scheme with
  | some scheme => simp
  | none =>
    simp only [Option.isSome_none, Bool.false_eq_true, ↓reduceIte, Option.none_or]
    repeat' split
    all_goals rfl

theorem isAbsolute_resolve {base : String} (absolute : isAbsolute base = true) (reference : String) :
    isAbsolute (resolve base reference) = true := by
  obtain ⟨fallback, baseScheme⟩ := Option.isSome_iff_exists.mp absolute
  have known : ∃ scheme, (target (split base.toList) (split reference.toList)).scheme = some scheme ∧
      isScheme scheme = true := by
    rw [target_scheme, baseScheme]
    cases own : (split reference.toList).scheme with
    | some scheme => exact ⟨scheme, rfl, (split_scheme_eq_some_iff.mp own).1⟩
    | none => exact ⟨fallback, rfl, (split_scheme_eq_some_iff.mp baseScheme).1⟩
  obtain ⟨scheme, found, valid⟩ := known
  refine isAbsolute_iff.mpr ⟨scheme, ?_, valid, ?_⟩
  rotate_left
  · rw [resolve, String.toList_ofList, Components.recompose, found]
    simp only [List.append_assoc, List.cons_append, List.nil_append]
    rfl

theorem isAlpha_head_of_isAbsolute {iri : String} (absolute : isAbsolute iri = true) :
    ∃ c cs, iri.toList = c :: cs ∧ c.isAlpha = true := by
  obtain ⟨scheme, rest, valid, same⟩ := isAbsolute_iff.mp absolute
  cases scheme with
  | nil => cases valid
  | cons c scheme =>
    simp only [isScheme, Bool.and_eq_true] at valid
    exact ⟨c, scheme ++ ':' :: rest, same, valid.1⟩

theorem ne_empty_of_isAbsolute {iri : String} (absolute : isAbsolute iri = true) : iri ≠ "" := by
  rintro rfl
  exact absurd absolute (by decide)

end Iri

namespace Prologue

def Absolute (p : Prologue) : Prop :=
  (∃ base, p.base = some base ∧ Iri.isAbsolute base = true) ∧
    ∀ declared ∈ p.namespaces, Iri.isAbsolute declared.2 = true

theorem resolve_of_isAbsolute (p : Prologue) {iri : String} (absolute : Iri.isAbsolute iri = true) :
    p.resolve iri = iri := by
  unfold resolve
  split
  · rw [if_pos absolute]
  · rfl

theorem Absolute.resolve {p : Prologue} (absolute : p.Absolute) (reference : String) :
    Iri.isAbsolute (p.resolve reference) = true := by
  obtain ⟨⟨base, same, whole⟩, -⟩ := absolute
  simp only [Prologue.resolve, same]
  split
  · assumption
  · exact Iri.isAbsolute_resolve whole reference

theorem Absolute.expand {p : Prologue} (absolute : p.Absolute) {label localPart iri : String}
    (found : p.expand label localPart = .ok iri) : Iri.isAbsolute iri = true := by
  unfold Prologue.expand at found
  split at found
  · next ns declared =>
    cases found
    obtain ⟨later, earlier, whole, -⟩ := List.lookup_eq_some_iff.mp declared
    have member : (label, ns) ∈ p.namespaces := List.mem_reverse.mp (by simp [whole])
    exact Iri.isAbsolute_append (absolute.2 (label, ns) member) localPart
  · cases found

end Prologue

end TemplateQuery
