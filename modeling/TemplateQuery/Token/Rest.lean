import TemplateQuery.Token.Scan

/-! What a reader leaves is an end of what it was given, and a proper one where a token was read.
This is why scanning ends, and why tokens lie one after the other. -/

set_option autoImplicit false

namespace TemplateQuery.Token

/-- `rest` is an end of `cs` other than `cs` itself. -/
def Rest (cs rest : List Char) : Prop := ∃ w, w ≠ [] ∧ cs = w ++ rest

theorem Rest.length_lt {cs rest : List Char} (h : Rest cs rest) : rest.length < cs.length := by
  obtain ⟨w, hw, rfl⟩ := h
  have := List.length_pos_iff.2 hw
  simp; omega

theorem rest_cons (c : Char) (cs : List Char) : Rest (c :: cs) cs := ⟨[c], by simp, rfl⟩

theorem Rest.cons {c : Char} {cs rest : List Char} (h : cs = rest ∨ Rest cs rest) : Rest (c :: cs) rest := by
  rcases h with rfl | ⟨w, _, rfl⟩
  · exact rest_cons c cs
  · exact ⟨c :: w, by simp, rfl⟩

theorem Rest.after {cs mid rest : List Char} (h : Rest cs mid) (k : mid = rest ∨ Rest mid rest) : Rest cs rest := by
  obtain ⟨w, hw, rfl⟩ := h
  rcases k with rfl | ⟨v, _, rfl⟩
  · exact ⟨w, hw, rfl⟩
  · exact ⟨w ++ v, by simp [hw], by simp⟩

theorem eq_or_rest_dropWhile (p : Char → Bool) (cs : List Char) :
    cs = cs.dropWhile p ∨ Rest cs (cs.dropWhile p) := by
  cases h : cs.takeWhile p with
  | nil =>
    left
    have := List.takeWhile_append_dropWhile (p := p) (l := cs)
    simpa [h] using this.symm
  | cons c w =>
    right
    refine ⟨c :: w, by simp, ?_⟩
    rw [← h, List.takeWhile_append_dropWhile]

theorem eq_or_rest_drop (n : Nat) (cs : List Char) : cs = cs.drop n ∨ Rest cs (cs.drop n) := by
  cases n with
  | zero => left; simp
  | succ n =>
    cases cs with
    | nil => left; simp
    | cons c cs =>
      right
      exact ⟨(c :: cs).take (n + 1), by simp, (List.take_append_drop _ _).symm⟩

theorem prepend_eq_some {c? : Option Char} {found : Found (List Char)} {body rest : List Char}
    (h : prepend c? found = some (body, rest)) :
    ∃ c body', c? = some c ∧ found = some (body', rest) ∧ body = c :: body' := by
  unfold prepend at h
  split at h
  · next c body' rest' => cases h; exact ⟨c, body', rfl, rfl, rfl⟩
  · cases h

theorem rest_of_operator? {cs rest : List Char} {k : Kind} (h : operator? cs = some (k, rest)) : Rest cs rest := by
  unfold operator? at h
  split at h <;> first
    | (cases h; exact Rest.cons (.inr (rest_cons _ _)))
    | cases h

theorem rest_append (w cs : List Char) (hw : w ≠ []) : Rest (w ++ cs) cs := ⟨w, hw, rfl⟩

theorem rest_of_iriBody? {cs body rest : List Char} (h : iriBody? cs = some (body, rest)) : Rest cs rest := by
  fun_induction iriBody? cs generalizing body rest with
  | case1 => cases h
  | case2 a b c d cs ih =>
    obtain ⟨_, body', _, hf, _⟩ := prepend_eq_some h
    exact (rest_append ['\\', 'u', a, b, c, d] cs (by simp)).after (.inr (ih hf))
  | case3 a b c d e f g i cs ih =>
    obtain ⟨_, body', _, hf, _⟩ := prepend_eq_some h
    exact (rest_append ['\\', 'U', a, b, c, d, e, f, g, i] cs (by simp)).after (.inr (ih hf))
  | case4 cs => cases h; exact rest_cons _ _
  | case5 c cs _ _ _ _ ih =>
    obtain ⟨_, body', _, hf, _⟩ := prepend_eq_some h
    exact Rest.cons (.inr (ih hf))
  | case6 => cases h

theorem rest_of_iri? {cs rest : List Char} {k : Kind} (h : iri? cs = some (k, rest)) : Rest cs rest := by
  unfold iri? at h
  split at h
  · obtain ⟨⟨body, r⟩, hb, he⟩ := Option.map_eq_some_iff.1 h
    cases he
    exact Rest.cons (.inr (rest_of_iriBody? hb))
  · cases h

theorem rest_of_braced? {depth : Nat} {cs body rest : List Char} (h : braced? depth cs = some (body, rest)) :
    Rest cs rest := by
  induction cs generalizing depth body rest with
  | nil => simp [braced?] at h
  | cons c cs ih =>
    unfold braced? at h
    split at h
    · obtain ⟨_, _, _, hf, _⟩ := prepend_eq_some h
      exact Rest.cons (.inr (ih hf))
    · split at h
      · split at h
        · cases h; exact rest_cons _ _
        · obtain ⟨_, _, _, hf, _⟩ := prepend_eq_some h
          exact Rest.cons (.inr (ih hf))
      · obtain ⟨_, _, _, hf, _⟩ := prepend_eq_some h
        exact Rest.cons (.inr (ih hf))

theorem rest_of_placeholder? {cs rest : List Char} {k : Kind} (h : placeholder? cs = some (k, rest)) :
    Rest cs rest := by
  unfold placeholder? at h
  split at h
  · obtain ⟨⟨body, r⟩, hb, he⟩ := Option.map_eq_some_iff.1 h
    cases he
    exact Rest.cons (.inr (Rest.cons (.inr (rest_of_braced? hb))))
  · cases h

theorem rest_of_var? {cs rest : List Char} {k : Kind} (h : var? cs = some (k, rest)) : Rest cs rest := by
  unfold var? at h
  split at h
  · split at h
    · cases h
      exact Rest.cons (.inr (Rest.cons (eq_or_rest_dropWhile _ _)))
    · cases h
  · cases h

theorem rest_of_blank? {cs rest : List Char} {k : Kind} (h : blank? cs = some (k, rest)) : Rest cs rest := by
  unfold blank? at h
  split at h
  · dsimp only at h
    split at h
    · cases h
      exact Rest.cons (.inr (Rest.cons (.inr (Rest.cons (eq_or_rest_dropWhile _ _)))))
    · cases h
  · cases h

theorem rest_of_anon? {cs rest : List Char} {k : Kind} (h : anon? cs = some (k, rest)) : Rest cs rest := by
  unfold anon? at h
  split at h
  · next cs =>
    split at h
    · next r hd =>
      cases h
      refine (rest_cons _ _).after (.inr ?_)
      rcases eq_or_rest_dropWhile isSpace cs with e | e
      · rw [e, hd]; exact rest_cons _ _
      · rw [hd] at e; exact e.after (.inr (rest_cons _ _))
    · cases h
  · cases h

theorem rest_of_langTag? {cs rest : List Char} {k : Kind} (h : langTag? cs = some (k, rest)) : Rest cs rest := by
  unfold langTag? at h
  split at h
  · split at h
    · cases h
    · cases h
      exact Rest.cons (eq_or_rest_dropWhile _ _)
  · cases h

theorem rest_of_localBody? {cs body rest : List Char} (h : localBody? cs = some (body, rest)) :
    cs = rest ∨ Rest cs rest := by
  fun_induction localBody? cs generalizing body rest with
  | case1 => cases h; exact .inl rfl
  | case2 a b cs _ ih =>
    obtain ⟨_, _, _, h, _⟩ := prepend_eq_some h
    obtain ⟨_, _, _, h, _⟩ := prepend_eq_some h
    obtain ⟨_, _, _, h, _⟩ := prepend_eq_some h
    exact .inr ((rest_append ['%', a, b] cs (by simp)).after (ih h))
  | case3 => cases h
  | case4 c cs _ ih =>
    obtain ⟨_, _, _, h, _⟩ := prepend_eq_some h
    exact .inr ((rest_append ['\\', c] cs (by simp)).after (ih h))
  | case5 => cases h
  | case6 c cs _ _ _ ih =>
    obtain ⟨_, _, _, h, _⟩ := prepend_eq_some h
    exact .inr (Rest.cons (ih h))
  | case7 cs _ _ _ _ ih =>
    obtain ⟨_, _, _, h, _⟩ := prepend_eq_some h
    exact .inr (Rest.cons (ih h))
  | case8 => cases h; exact .inl rfl
  | case9 => cases h
  | case10 => cases h; exact .inl rfl

theorem rest_of_localPart? {cs body rest : List Char} (h : localPart? cs = some (body, rest)) :
    cs = rest ∨ Rest cs rest := by
  unfold localPart? at h
  split at h
  · cases h
  · split at h
    · exact rest_of_localBody? h
    · cases h

theorem rest_of_afterColon (label cs : List Char) :
    cs = (afterColon label cs).2 ∨ Rest cs (afterColon label cs).2 := by
  unfold afterColon
  split
  · next h => exact rest_of_localPart? h
  · exact .inl rfl

theorem rest_of_emptyLabel? {cs rest : List Char} {k : Kind} (h : emptyLabel? cs = some (k, rest)) :
    Rest cs rest := by
  unfold emptyLabel? at h
  split at h
  · next cs =>
    have := rest_of_afterColon [] cs
    simp only [Option.some.injEq] at h
    rw [h] at this
    exact Rest.cons this
  · cases h

theorem dotted_append (cs : List Char) : (dotted cs).1 ++ (dotted cs).2 = cs := by
  induction cs with
  | nil => rfl
  | cons c cs ih =>
    unfold dotted
    split
    · simp [ih]
    · rfl

theorem rest_of_word? {cs rest : List Char} {k : Kind} (h : word? cs = some (k, rest)) : Rest cs rest := by
  unfold word? at h
  split at h
  · cases h
  · next c cs =>
    split at h
    · next hc =>
      have happ := dotted_append (c :: cs)
      have hne : (dotted (c :: cs)).1 ≠ [] := by
        unfold dotted
        have : isNameChar c = true := by simp [isNameChar, isLetterOrUnderscore, hc]
        simp [this]
      split at h
      · next label r hd =>
        rw [hd] at happ hne
        have := rest_of_afterColon label r
        simp only [Option.some.injEq] at h
        rw [h] at this
        rw [← happ]
        exact (rest_append label _ hne).after (.inr (Rest.cons this))
      · next word r _ hd =>
        rw [hd] at happ hne
        have e : Rest (c :: cs) r := by rw [← happ]; exact rest_append word r hne
        split at h <;> (cases h; exact e)
    · cases h

theorem rest_of_shortBody? {quote : Char} {cs body rest : List Char}
    (h : shortBody? quote cs = some (body, rest)) : Rest cs rest := by
  fun_induction shortBody? quote cs generalizing body rest with
  | case1 => cases h
  | case2 a b c d cs ih =>
    obtain ⟨_, _, _, h, _⟩ := prepend_eq_some h
    exact (rest_append ['\\', 'u', a, b, c, d] cs (by simp)).after (.inr (ih h))
  | case3 a b c d e f g i cs ih =>
    obtain ⟨_, _, _, h, _⟩ := prepend_eq_some h
    exact (rest_append ['\\', 'U', a, b, c, d, e, f, g, i] cs (by simp)).after (.inr (ih h))
  | case4 c cs _ _ ih =>
    obtain ⟨_, _, _, h, _⟩ := prepend_eq_some h
    exact (rest_append ['\\', c] cs (by simp)).after (.inr (ih h))
  | case5 => cases h; exact rest_cons _ _
  | case6 => cases h
  | case7 c cs _ _ _ _ _ ih =>
    obtain ⟨_, _, _, h, _⟩ := prepend_eq_some h
    exact Rest.cons (.inr (ih h))

theorem rest_of_longBody? {quote : Char} {cs body rest : List Char}
    (h : longBody? quote cs = some (body, rest)) : Rest cs rest := by
  fun_induction longBody? quote cs generalizing body rest with
  | case1 => cases h
  | case2 a b c d cs ih =>
    obtain ⟨_, _, _, h, _⟩ := prepend_eq_some h
    exact (rest_append ['\\', 'u', a, b, c, d] cs (by simp)).after (.inr (ih h))
  | case3 a b c d e f g i cs ih =>
    obtain ⟨_, _, _, h, _⟩ := prepend_eq_some h
    exact (rest_append ['\\', 'U', a, b, c, d, e, f, g, i] cs (by simp)).after (.inr (ih h))
  | case4 c cs _ _ ih =>
    obtain ⟨_, _, _, h, _⟩ := prepend_eq_some h
    exact (rest_append ['\\', c] cs (by simp)).after (.inr (ih h))
  | case5 => cases h; exact Rest.cons (eq_or_rest_drop _ _)
  | case6 => cases h
  | case7 c cs _ _ _ _ _ ih =>
    obtain ⟨_, _, _, h, _⟩ := prepend_eq_some h
    exact Rest.cons (.inr (ih h))

theorem rest_of_string? {cs rest : List Char} {k : Kind} (h : string? cs = some (k, rest)) : Rest cs rest := by
  unfold string? at h
  split at h
  · cases h
  · next q cs =>
    split at h
    · obtain ⟨⟨body, r⟩, hb, he⟩ := Option.map_eq_some_iff.1 h
      cases he
      refine Rest.cons (.inr ?_)
      split at hb
      · cases hl : longBody? q (cs.drop 2) with
        | some found =>
          rw [hl] at hb
          cases hb
          rcases eq_or_rest_drop 2 cs with e | e
          · rw [e]; exact rest_of_longBody? hl
          · exact e.after (.inr (rest_of_longBody? hl))
        | none =>
          rw [hl] at hb
          exact rest_of_shortBody? hb
      · exact rest_of_shortBody? hb
    · cases h

theorem digits_append (cs : List Char) : (digits cs).1 ++ (digits cs).2 = cs :=
  List.takeWhile_append_dropWhile

theorem rest_of_digits {cs found rest : List Char} (h : digits cs = (found, rest)) (hne : found ≠ []) :
    Rest cs rest := by
  have := digits_append cs
  rw [h] at this
  rw [← this]
  exact rest_append found rest hne

theorem eq_or_rest_of_digits {cs found rest : List Char} (h : digits cs = (found, rest)) :
    cs = rest ∨ Rest cs rest := by
  by_cases hne : found = []
  · left
    have := digits_append cs
    rw [h, hne] at this
    exact this.symm
  · exact .inr (rest_of_digits h hne)

theorem rest_of_pointed? {trailing : Bool} {cs text rest : List Char}
    (h : pointed? trailing cs = some (text, rest)) : Rest cs rest := by
  have step {whole after fraction rest : List Char} (hw : digits cs = (whole, '.' :: after))
      (hf : digits after = (fraction, rest)) : Rest cs rest := by
    have inner : Rest ('.' :: after) rest := Rest.cons (eq_or_rest_of_digits hf)
    rcases eq_or_rest_of_digits hw with e | e
    · rw [e]; exact inner
    · exact e.after (.inr inner)
  unfold pointed? at h
  split at h
  · next hw =>
    split at h
    · next hf =>
      split at h
      · cases h; exact step hw hf
      · cases h
    · next hf => cases h; exact step hw hf
  · cases h

theorem rest_of_sign (cs : List Char) : cs = (sign cs).2 ∨ Rest cs (sign cs).2 := by
  unfold sign
  split
  · exact .inr (rest_cons _ _)
  · exact .inr (rest_cons _ _)
  · exact .inl rfl

theorem rest_of_exponent? {cs text rest : List Char} (h : exponent? cs = some (text, rest)) : Rest cs rest := by
  unfold exponent? at h
  split at h
  · cases h
  · next e cs =>
    split at h
    · split at h
      · cases h
      · next hd =>
        cases h
        rcases rest_of_sign cs with hs | hs
        · rw [← hs] at hd
          exact Rest.cons (eq_or_rest_of_digits hd)
        · exact Rest.cons (.inr (hs.after (eq_or_rest_of_digits hd)))
    · cases h

theorem rest_of_double? {cs rest : List Char} {k : Kind} (h : double? cs = some (k, rest)) : Rest cs rest := by
  unfold double? at h
  obtain ⟨⟨mantissa, mid⟩, hm, he⟩ := Option.bind_eq_some_iff.1 h
  obtain ⟨⟨power, r⟩, hp, hr⟩ := Option.map_eq_some_iff.1 he
  cases hr
  have inner := rest_of_exponent? hp
  split at hm
  · next found hf =>
    cases hm
    exact (rest_of_pointed? hf).after (.inr inner)
  · split at hm
    · cases hm
    · simp only [Option.some.injEq] at hm
      rcases eq_or_rest_of_digits hm with e | e
      · rw [e]; exact inner
      · exact e.after (.inr inner)

theorem rest_of_decimal? {cs rest : List Char} {k : Kind} (h : decimal? cs = some (k, rest)) : Rest cs rest := by
  unfold decimal? at h
  obtain ⟨⟨text, r⟩, ht, he⟩ := Option.bind_eq_some_iff.1 h
  dsimp only at he
  split at he
  · cases he
  · cases he; exact rest_of_pointed? ht

theorem rest_of_integer? {cs rest : List Char} {k : Kind} (h : integer? cs = some (k, rest)) : Rest cs rest := by
  unfold integer? at h
  split at h
  · cases h
  · next text r hne hd =>
    split at h
    · cases h
    · cases h; exact rest_of_digits hd hne

theorem rest_of_punct? {cs rest : List Char} {k : Kind} (h : punct? cs = some (k, rest)) : Rest cs rest := by
  unfold punct? at h
  split at h
  · cases h
  · obtain ⟨mark, _, he⟩ := Option.map_eq_some_iff.1 h
    cases he
    exact rest_cons _ _

inductive ReadBy (cs after : List Char) (kind : Kind) : Prop
  | operator (found : operator? cs = some (kind, after))
  | iri (found : iri? cs = some (kind, after))
  | placeholder (found : placeholder? cs = some (kind, after))
  | var (found : var? cs = some (kind, after))
  | blank (found : blank? cs = some (kind, after))
  | anon (found : anon? cs = some (kind, after))
  | langTag (found : langTag? cs = some (kind, after))
  | emptyLabel (found : emptyLabel? cs = some (kind, after))
  | word (found : word? cs = some (kind, after))
  | string (found : string? cs = some (kind, after))
  | double (found : double? cs = some (kind, after))
  | decimal (found : decimal? cs = some (kind, after))
  | integer (found : integer? cs = some (kind, after))
  | punct (found : punct? cs = some (kind, after))

theorem readBy_of_scanOne? {cs after : List Char} {kind : Kind} (found : scanOne? cs = some (kind, after)) :
    ReadBy cs after kind := by
  simp only [scanOne?, Option.or_eq_some_iff] at found
  rcases found with found | ⟨-, found | ⟨-, found | ⟨-, found | ⟨-, found | ⟨-, found | ⟨-, found | ⟨-,
    found | ⟨-, found | ⟨-, found | ⟨-, found | ⟨-, found | ⟨-, found | ⟨-, found⟩⟩⟩⟩⟩⟩⟩⟩⟩⟩⟩⟩⟩
  · exact .operator found
  · exact .iri found
  · exact .placeholder found
  · exact .var found
  · exact .blank found
  · exact .anon found
  · exact .langTag found
  · exact .emptyLabel found
  · exact .word found
  · exact .string found
  · exact .double found
  · exact .decimal found
  · exact .integer found
  · exact .punct found

theorem rest_of_scanOne? {cs rest : List Char} {k : Kind} (h : scanOne? cs = some (k, rest)) : Rest cs rest := by
  cases readBy_of_scanOne? h with
  | operator found => exact rest_of_operator? found
  | iri found => exact rest_of_iri? found
  | placeholder found => exact rest_of_placeholder? found
  | var found => exact rest_of_var? found
  | blank found => exact rest_of_blank? found
  | anon found => exact rest_of_anon? found
  | langTag found => exact rest_of_langTag? found
  | emptyLabel found => exact rest_of_emptyLabel? found
  | word found => exact rest_of_word? found
  | string found => exact rest_of_string? found
  | double found => exact rest_of_double? found
  | decimal found => exact rest_of_decimal? found
  | integer found => exact rest_of_integer? found
  | punct found => exact rest_of_punct? found

end TemplateQuery.Token
