import TemplateQuery.Proofs.Token.Lexing
import TemplateQuery.Text.Blank

/-! The last character of a token. Trimming takes off more than what may stand between tokens, but all that it can take
off a token is the one white space that is a letter too. Main statement: `ends_of_scanOne?`. -/

set_option autoImplicit false

namespace TemplateQuery.Token

open Text

/-! ## White space in names -/

/-- The one white space that names may hold. -/
def oghamSpace : Char := '\u1680'

theorem isBlank_iff_of_isNameChar {c : Char} (inside : isNameChar c = true) : isBlank c = true ↔ c = oghamSpace := by
  have value : c = oghamSpace ↔ c.toNat = 0x1680 := ⟨fun same => same ▸ rfl, fun same => Char.toNat_inj.mp same⟩
  have ascii : ∀ d : Char, c = d → c.toNat = d.toNat := fun d same => same ▸ rfl
  rw [value]
  simp only [isNameChar, isLetterOrUnderscore, isLetter, isJoiner, between, Bool.or_eq_true, Bool.and_eq_true,
    decide_eq_true_eq, beq_iff_eq] at inside
  simp only [isBlank, Bool.or_eq_true, Bool.and_eq_true, decide_eq_true_eq, beq_iff_eq]
  constructor
  · intro blank
    rcases inside with (((letter | low) | hyphen) | digit) | joiner
    · omega
    · have : c.toNat = 95 := ascii '_' low
      omega
    · have : c.toNat = 45 := ascii '-' hyphen
      omega
    · have := toNat_of_isDigit digit
      omega
    · omega
  · omega

def isFirm (c : Char) : Bool := !isBlank c || c == oghamSpace

theorem isFirm_of_isNameChar {c : Char} (inside : isNameChar c = true) : isFirm c = true := by
  cases blank : isBlank c with
  | false => simp [isFirm, blank]
  | true => simp [isFirm, (isBlank_iff_of_isNameChar inside).mp blank]

theorem isFirm_of_isDigit {c : Char} (digit : c.isDigit = true) : isFirm c = true :=
  isFirm_of_isNameChar (by simp [isNameChar, digit])

theorem isFirm_of_isLetterOrUnderscore {c : Char} (letter : isLetterOrUnderscore c = true) : isFirm c = true :=
  isFirm_of_isNameChar (by simp [isNameChar, letter])

theorem isVarChar_of_isVarName {name : List Char} (valid : isVarName name = true) : ∀ c ∈ name, isVarChar c = true := by
  cases name with
  | nil => simp
  | cons c name =>
    simp only [isVarName, Bool.and_eq_true, List.all_eq_true] at valid
    have first : isVarChar c = true := by
      have start := valid.1
      simp only [isVarStart, Bool.or_eq_true] at start
      rcases start with letter | digit
      · simp [isVarChar, letter]
      · simp [isVarChar, digit]
    exact List.forall_mem_cons.mpr ⟨first, valid.2⟩

theorem isNameChar_of_isVarChar {c : Char} (inside : isVarChar c = true) : isNameChar c = true := by
  simp only [isVarChar, Bool.or_eq_true] at inside
  rcases inside with (letter | digit) | joiner <;> simp [isNameChar, *]

theorem isFirm_of_isVarChar {c : Char} (inside : isVarChar c = true) : isFirm c = true :=
  isFirm_of_isNameChar (isNameChar_of_isVarChar inside)

theorem isFirm_of_ascii {c : Char} (low : 0x20 < c.toNat) (high : c.toNat < 0x80) : isFirm c = true := by
  have plain : isBlank c = false := by
    simp only [isBlank, Bool.or_eq_false_iff, Bool.and_eq_false_iff, decide_eq_false_iff_not, beq_eq_false_iff_ne]
    omega
  simp [isFirm, plain]

theorem isFirm_of_isHex {c : Char} (digit : isHex c = true) : isFirm c = true := by
  have bounds : 48 ≤ c.toNat ∧ c.toNat ≤ 102 := by
    have size : ∀ d : Char, d.val.toNat = d.toNat := fun d => rfl
    simp only [isHex, hexValue?, Char.le_def, UInt32.le_iff_toNat_le, size, Bool.and_eq_true,
      decide_eq_true_eq] at digit
    have letters : '0'.toNat = 48 ∧ '9'.toNat = 57 ∧ 'a'.toNat = 97 ∧ 'f'.toNat = 102 ∧ 'A'.toNat = 65 ∧
        'F'.toNat = 70 := by decide
    repeat' split at digit
    all_goals first | omega | cases digit
  exact isFirm_of_ascii (by omega) (by omega)

theorem isFirm_of_isTagChar {c : Char} (inside : isTagChar c = true) : isFirm c = true := by
  rcases Bool.or_eq_true_iff.mp inside with known | hyphen
  · rcases Bool.or_eq_true_iff.mp known with letter | digit
    · have := toNat_of_isAlpha letter
      exact isFirm_of_ascii (by omega) (by omega)
    · have := toNat_of_isDigit digit
      exact isFirm_of_ascii (by omega) (by omega)
  · rw [eq_of_beq hyphen]; decide

theorem isFirm_of_isLocalEscape {c : Char} (escape : isLocalEscape c = true) : isFirm c = true := by
  have every : ∀ d ∈ "_~.-!$&'()*+,;=/?#@%".toList, isFirm d = true := List.all_eq_true.mp (by decide)
  exact every c (by simpa [isLocalEscape] using escape)

theorem isFirm_of_punctOf? {c : Char} {mark : Punct} (found : punctOf? c = some mark) : isFirm c = true := by
  unfold punctOf? at found
  split at found <;> first | decide | cases found

/-! ## Where readers stop -/

/-- `rest` is what comes after some firm character of `cs`. -/
def Ends (cs rest : List Char) : Prop := ∃ front last, isFirm last = true ∧ cs = front ++ last :: rest

theorem Ends.here {c : Char} (firm : isFirm c = true) (rest : List Char) : Ends (c :: rest) rest := ⟨[], c, firm, rfl⟩

theorem Ends.after {cs rest : List Char} (ends : Ends cs rest) (front : List Char) : Ends (front ++ cs) rest := by
  obtain ⟨inner, last, firm, rfl⟩ := ends
  exact ⟨front ++ inner, last, firm, by simp⟩

theorem Ends.cons {cs rest : List Char} (ends : Ends cs rest) (c : Char) : Ends (c :: cs) rest := ends.after [c]

theorem Ends.of_or {c : Char} {cs rest : List Char} (firm : isFirm c = true) (ends : cs = rest ∨ Ends cs rest) :
    Ends (c :: cs) rest := by
  rcases ends with rfl | ends
  · exact .here firm cs
  · exact ends.cons c

theorem ends_dropWhile {p : Char → Bool} (firm : ∀ c, p c = true → isFirm c = true) (cs : List Char) :
    cs = cs.dropWhile p ∨ Ends cs (cs.dropWhile p) := by
  induction cs with
  | nil => exact .inl rfl
  | cons c cs ih =>
    by_cases inside : p c = true
    · rw [List.dropWhile_cons_of_pos inside]
      exact .inr (.of_or (firm c inside) ih)
    · rw [List.dropWhile_cons_of_neg inside]
      exact .inl rfl

section Readers

variable {cs rest : List Char} {kind : Kind}

theorem ends_of_operator? (found : operator? cs = some (kind, rest)) : Ends cs rest := by
  unfold operator? at found
  split at found <;> first
    | (cases found; exact (Ends.here (by decide) rest).cons _)
    | cases found

theorem ends_of_iriBody? {body : List Char} (found : iriBody? cs = some (body, rest)) : Ends cs rest := by
  fun_induction iriBody? cs generalizing body with
  | case1 => cases found
  | case2 a b c d cs ih =>
    obtain ⟨_, _, -, inner, -⟩ := prepend_eq_some found
    exact (ih inner).after ['\\', 'u', a, b, c, d]
  | case3 a b c d e f g h cs ih =>
    obtain ⟨_, _, -, inner, -⟩ := prepend_eq_some found
    exact (ih inner).after ['\\', 'U', a, b, c, d, e, f, g, h]
  | case4 => cases found; exact .here (by decide) rest
  | case5 c cs _ _ _ _ ih =>
    obtain ⟨_, _, -, inner, -⟩ := prepend_eq_some found
    exact (ih inner).cons c
  | case6 => cases found

theorem ends_of_iri? (found : iri? cs = some (kind, rest)) : Ends cs rest := by
  unfold iri? at found
  split at found
  · obtain ⟨_, body, same⟩ := Option.map_eq_some_iff.mp found
    cases same
    exact (ends_of_iriBody? body).cons '<'
  · cases found

theorem ends_of_braced? {depth : Nat} {body : List Char} (found : braced? depth cs = some (body, rest)) :
    Ends cs rest := by
  induction cs generalizing depth body with
  | nil => simp [braced?] at found
  | cons c cs ih =>
    unfold braced? at found
    split at found
    · obtain ⟨_, _, -, inner, -⟩ := prepend_eq_some found
      exact (ih inner).cons c
    · split at found
      · next close =>
        split at found
        · cases found; rw [close]; exact .here (by decide) rest
        · obtain ⟨_, _, -, inner, -⟩ := prepend_eq_some found
          exact (ih inner).cons c
      · obtain ⟨_, _, -, inner, -⟩ := prepend_eq_some found
        exact (ih inner).cons c

theorem ends_of_placeholder? (found : placeholder? cs = some (kind, rest)) : Ends cs rest := by
  unfold placeholder? at found
  split at found
  · obtain ⟨_, body, same⟩ := Option.map_eq_some_iff.mp found
    cases same
    exact (ends_of_braced? body).after ['$', '\x7b']
  · cases found

theorem ends_of_var? (found : var? cs = some (kind, rest)) : Ends cs rest := by
  unfold var? at found
  split at found
  · next c d cs =>
    split at found
    · next start =>
      cases found
      have letter : isVarStart d = true := (Bool.and_eq_true_iff.mp start).2
      have first : isVarChar d = true := by
        simp only [isVarStart, Bool.or_eq_true] at letter
        rcases letter with letter | digit <;> simp [isVarChar, *]
      exact (Ends.of_or (isFirm_of_isVarChar first) (ends_dropWhile (fun _ => isFirm_of_isVarChar) cs)).cons c
    · cases found
  · cases found

theorem ends_of_blank? (found : blank? cs = some (kind, rest)) : Ends cs rest := by
  have inside : ∀ d, (isNameChar d || d == '.') = true → isFirm d = true := by
    intro d either
    rcases Bool.or_eq_true_iff.mp either with name | dot
    · exact isFirm_of_isNameChar name
    · rw [eq_of_beq dot]; decide
  unfold blank? at found
  split at found
  · next c cs =>
    dsimp only at found
    split at found
    · next start =>
      cases found
      have first : isFirm c = true := by
        rcases Bool.or_eq_true_iff.mp (Bool.and_eq_true_iff.mp start).1 with letter | digit
        · exact isFirm_of_isLetterOrUnderscore letter
        · exact isFirm_of_isDigit digit
      exact (Ends.of_or first (ends_dropWhile inside cs)).after ['_', ':']
    · cases found
  · cases found

theorem ends_of_anon? (found : anon? cs = some (kind, rest)) : Ends cs rest := by
  unfold anon? at found
  split at found
  · next cs =>
    split at found
    · next inner dropped =>
      cases found
      have close : Ends (cs.dropWhile isSpace) rest := by rw [dropped]; exact .here (by decide) rest
      have whole := (close.after (cs.takeWhile isSpace)).cons '['
      rwa [List.takeWhile_append_dropWhile] at whole
    · cases found
  · cases found

theorem ends_of_langTag? (found : langTag? cs = some (kind, rest)) : Ends cs rest := by
  unfold langTag? at found
  split at found
  · next cs =>
    split at found
    · cases found
    · cases found
      exact .of_or (by decide) (ends_dropWhile (fun _ => isFirm_of_isTagChar) cs)
  · cases found

theorem ends_of_localBody? {body : List Char} (found : localBody? cs = some (body, rest)) :
    cs = rest ∨ Ends cs rest := by
  fun_induction localBody? cs generalizing body with
  | case1 => cases found; exact .inl rfl
  | case2 a b cs digits ih =>
    obtain ⟨_, _, -, found, -⟩ := prepend_eq_some found
    obtain ⟨_, _, -, found, -⟩ := prepend_eq_some found
    obtain ⟨_, _, -, found, -⟩ := prepend_eq_some found
    have last := isFirm_of_isHex (Bool.and_eq_true_iff.mp digits).2
    exact .inr ((Ends.of_or last (ih found)).after ['%', a])
  | case3 => cases found
  | case4 c cs escape ih =>
    obtain ⟨_, _, -, found, -⟩ := prepend_eq_some found
    exact .inr ((Ends.of_or (isFirm_of_isLocalEscape escape) (ih found)).cons '\\')
  | case5 => cases found
  | case6 c cs _ _ inside ih =>
    obtain ⟨_, _, -, found, -⟩ := prepend_eq_some found
    have firm : isFirm c = true := by
      rcases Bool.or_eq_true_iff.mp inside with name | colon
      · exact isFirm_of_isNameChar name
      · rw [of_decide_eq_true colon]; decide
    exact .inr (.of_or firm (ih found))
  | case7 cs _ _ _ _ ih =>
    obtain ⟨_, _, -, found, -⟩ := prepend_eq_some found
    exact .inr (.of_or (by decide) (ih found))
  | case8 => cases found; exact .inl rfl
  | case9 => cases found
  | case10 => cases found; exact .inl rfl

theorem ends_of_afterColon (label cs : List Char) : Ends (':' :: cs) (afterColon label cs).2 := by
  unfold afterColon
  split
  · next found =>
    unfold localPart? at found
    split at found
    · cases found
    · split at found
      · exact .of_or (by decide) (ends_of_localBody? found)
      · cases found
  · exact .here (by decide) cs

theorem ends_of_emptyLabel? (found : emptyLabel? cs = some (kind, rest)) : Ends cs rest := by
  unfold emptyLabel? at found
  split at found
  · next cs =>
    have ends := ends_of_afterColon [] cs
    rwa [Option.some.inj found] at ends
  · cases found

theorem ends_of_dotted (cs : List Char) : cs = (dotted cs).2 ∨ Ends cs (dotted cs).2 := by
  induction cs with
  | nil => exact .inl rfl
  | cons c cs ih =>
    unfold dotted
    split
    · next inside =>
      have firm : isFirm c = true := by
        rcases Bool.or_eq_true_iff.mp inside with name | dot
        · exact isFirm_of_isNameChar name
        · rw [eq_of_beq (Bool.and_eq_true_iff.mp dot).1]; decide
      exact .inr (.of_or firm ih)
    · exact .inl rfl

theorem ends_of_word? (found : word? cs = some (kind, rest)) : Ends cs rest := by
  unfold word? at found
  split at found
  · cases found
  · next c cs =>
    split at found
    · next letter =>
      have name : isNameChar c = true := by simp [isNameChar, isLetterOrUnderscore, letter]
      split at found
      · next label after run =>
        have whole := dotted_append (c :: cs)
        have ends := (ends_of_afterColon label after).after label
        rw [run] at whole
        rwa [Option.some.inj found, whole] at ends
      · next word after _ run =>
        have ends : Ends (c :: cs) after := by
          have inner := Ends.of_or (isFirm_of_isNameChar name) (ends_of_dotted cs)
          have same : after = (dotted cs).2 := by
            have := congrArg Prod.snd run
            simpa [dotted, name] using this.symm
          rwa [same]
        split at found <;> (cases found; exact ends)
    · cases found

theorem ends_of_shortBody? {quote : Char} (firm : isFirm quote = true) {body : List Char}
    (found : shortBody? quote cs = some (body, rest)) : Ends cs rest := by
  fun_induction shortBody? quote cs generalizing body with
  | case1 => cases found
  | case2 a b c d cs ih =>
    obtain ⟨_, _, -, inner, -⟩ := prepend_eq_some found
    exact (ih inner).after ['\\', 'u', a, b, c, d]
  | case3 a b c d e f g h cs ih =>
    obtain ⟨_, _, -, inner, -⟩ := prepend_eq_some found
    exact (ih inner).after ['\\', 'U', a, b, c, d, e, f, g, h]
  | case4 c cs _ _ ih =>
    obtain ⟨_, _, -, inner, -⟩ := prepend_eq_some found
    exact (ih inner).after ['\\', c]
  | case5 => cases found; exact .here firm rest
  | case6 => cases found
  | case7 c cs _ _ _ _ _ ih =>
    obtain ⟨_, _, -, inner, -⟩ := prepend_eq_some found
    exact (ih inner).cons c

theorem append_of_longBody? {quote : Char} {body : List Char} (found : longBody? quote cs = some (body, rest)) :
    ∃ front, cs = front ++ [quote, quote, quote] ++ rest := by
  fun_induction longBody? quote cs generalizing body with
  | case1 => cases found
  | case2 a b c d cs ih =>
    obtain ⟨_, _, -, inner, -⟩ := prepend_eq_some found
    obtain ⟨front, rfl⟩ := ih inner
    exact ⟨['\\', 'u', a, b, c, d] ++ front, by simp⟩
  | case3 a b c d e f g h cs ih =>
    obtain ⟨_, _, -, inner, -⟩ := prepend_eq_some found
    obtain ⟨front, rfl⟩ := ih inner
    exact ⟨['\\', 'U', a, b, c, d, e, f, g, h] ++ front, by simp⟩
  | case4 c cs _ _ ih =>
    obtain ⟨_, _, -, inner, -⟩ := prepend_eq_some found
    obtain ⟨front, rfl⟩ := ih inner
    exact ⟨['\\', c] ++ front, by simp⟩
  | case5 c cs _ _ _ ends =>
    cases found
    simp only [Bool.and_eq_true, decide_eq_true_eq, beq_iff_eq] at ends
    obtain ⟨rfl, both⟩ := ends
    have whole := List.take_append_drop 2 cs
    rw [both] at whole
    exact ⟨[], by simpa using whole.symm⟩
  | case6 => cases found
  | case7 c cs _ _ _ _ _ ih =>
    obtain ⟨_, _, -, inner, -⟩ := prepend_eq_some found
    obtain ⟨front, rfl⟩ := ih inner
    exact ⟨c :: front, by simp⟩

theorem ends_of_longBody? {quote : Char} (firm : isFirm quote = true) {body : List Char}
    (found : longBody? quote cs = some (body, rest)) : Ends cs rest := by
  obtain ⟨front, rfl⟩ := append_of_longBody? found
  simpa using (Ends.here firm rest).after (front ++ [quote, quote])

theorem ends_of_string? (found : string? cs = some (kind, rest)) : Ends cs rest := by
  unfold string? at found
  split at found
  · cases found
  · next quote cs =>
    split at found
    · next mark =>
      have firm : isFirm quote = true := by
        rcases Bool.or_eq_true_iff.mp mark with double | single
        · rw [of_decide_eq_true double]; decide
        · rw [of_decide_eq_true single]; decide
      obtain ⟨⟨body, after⟩, read, same⟩ := Option.map_eq_some_iff.mp found
      cases same
      refine Ends.cons ?_ quote
      split at read
      · cases long : longBody? quote (cs.drop 2) with
        | some ends =>
          rw [long] at read
          cases read
          have inner := (ends_of_longBody? firm long).after (cs.take 2)
          rwa [List.take_append_drop] at inner
        | none =>
          rw [long] at read
          exact ends_of_shortBody? firm read
      · exact ends_of_shortBody? firm read
    · cases found

theorem ends_of_digits (cs : List Char) : cs = (digits cs).2 ∨ Ends cs (digits cs).2 :=
  ends_dropWhile (fun _ => isFirm_of_isDigit) cs

theorem ends_of_pointed? {trailing : Bool} {text : List Char} (found : pointed? trailing cs = some (text, rest)) :
    Ends cs rest := by
  unfold pointed? at found
  split at found
  · next whole after run =>
    have ends : Ends cs (digits after).2 := by
      have all := digits_append cs
      rw [run] at all
      rw [← all]
      exact (Ends.of_or (by decide) (ends_of_digits after)).after whole
    split at found
    · next fraction =>
      split at found
      · cases found; rwa [fraction] at ends
      · cases found
    · next fraction => cases found; rwa [fraction] at ends
  · cases found

theorem ends_of_some_digits {found : List Char} (run : digits cs = (found, rest)) (nonempty : found ≠ []) :
    Ends cs rest := by
  have ends := ends_of_digits cs
  rw [run] at ends
  refine ends.resolve_left fun same => nonempty ?_
  have all := digits_append cs
  rw [run, same] at all
  exact List.append_left_eq_self.mp all

theorem sign_append (cs : List Char) : (sign cs).1 ++ (sign cs).2 = cs := by
  unfold sign
  split <;> rfl

theorem ends_of_exponent? {text : List Char} (found : exponent? cs = some (text, rest)) : Ends cs rest := by
  unfold exponent? at found
  split at found
  · cases found
  · next e cs =>
    split at found
    · split at found
      · cases found
      · next power after nonempty run =>
        cases found
        have ends := (ends_of_some_digits run nonempty).after (sign cs).1
        rw [sign_append] at ends
        exact ends.cons e
    · cases found

theorem ends_of_double? (found : double? cs = some (kind, rest)) : Ends cs rest := by
  unfold double? at found
  obtain ⟨⟨mantissa, middle⟩, first, found⟩ := Option.bind_eq_some_iff.mp found
  obtain ⟨⟨power, after⟩, read, same⟩ := Option.map_eq_some_iff.mp found
  cases same
  have final := ends_of_exponent? read
  obtain ⟨front, whole⟩ : ∃ front, cs = front ++ middle := by
    split at first
    · next pointed =>
      cases first
      obtain ⟨front, last, -, whole⟩ := ends_of_pointed? pointed
      exact ⟨front ++ [last], by simpa using whole⟩
    · split at first
      · cases first
      · have all := digits_append cs
        rw [Option.some.inj first] at all
        exact ⟨mantissa, all.symm⟩
  rw [whole]
  exact final.after front

theorem ends_of_decimal? (found : decimal? cs = some (kind, rest)) : Ends cs rest := by
  unfold decimal? at found
  obtain ⟨⟨text, after⟩, read, found⟩ := Option.bind_eq_some_iff.mp found
  dsimp only at found
  split at found
  · cases found
  · cases found; exact ends_of_pointed? read

theorem ends_of_integer? (found : integer? cs = some (kind, rest)) : Ends cs rest := by
  unfold integer? at found
  split at found
  · cases found
  · next nonempty run =>
    split at found
    · cases found
    · cases found; exact ends_of_some_digits run nonempty

theorem ends_of_punct? (found : punct? cs = some (kind, rest)) : Ends cs rest := by
  unfold punct? at found
  split at found
  · cases found
  · obtain ⟨mark, read, same⟩ := Option.map_eq_some_iff.mp found
    cases same
    exact .here (isFirm_of_punctOf? read) rest

/-- A token ends in a character that is no white space, or else in the one that is a letter. -/
theorem ends_of_scanOne? (found : scanOne? cs = some (kind, rest)) : Ends cs rest := by
  cases readBy_of_scanOne? found with
  | operator found => exact ends_of_operator? found
  | iri found => exact ends_of_iri? found
  | placeholder found => exact ends_of_placeholder? found
  | var found => exact ends_of_var? found
  | blank found => exact ends_of_blank? found
  | anon found => exact ends_of_anon? found
  | langTag found => exact ends_of_langTag? found
  | emptyLabel found => exact ends_of_emptyLabel? found
  | word found => exact ends_of_word? found
  | string found => exact ends_of_string? found
  | double found => exact ends_of_double? found
  | decimal found => exact ends_of_decimal? found
  | integer found => exact ends_of_integer? found
  | punct found => exact ends_of_punct? found

end Readers

end TemplateQuery.Token
