import Mathlib.Control.Monad.Basic
import TemplateQuery.Proofs.Token.Lexing

/-! Where the tokens of a text lie. Each takes up some bytes of its own, one after the other, and all other bytes are
in the gaps between them: white space, and comments up to the end of their line. -/

set_option autoImplicit false

namespace TemplateQuery

/-! ## Bytes and characters -/

namespace Text

theorem utf8ByteSize_ofList (cs : List Char) : (String.ofList cs).utf8ByteSize = byteSize cs := by
  induction cs with
  | nil => rfl
  | cons c cs ih =>
    rw [String.ofList_cons, String.utf8ByteSize_append, String.utf8ByteSize_singleton, ih, byteSize]

theorem byteSize_pos {cs : List Char} (nonempty : cs ≠ []) : 0 < byteSize cs := by
  cases cs with
  | nil => exact absurd rfl nonempty
  | cons c cs =>
    have := Char.utf8Size_pos c
    simp only [byteSize]
    omega

theorem isValid_byteSize {text : String} {front back : List Char} (cut : text.toList = front ++ back) :
    String.Pos.Raw.IsValid text ⟨byteSize front⟩ := by
  refine String.Pos.Raw.isValid_iff_exists_append.mpr ⟨String.ofList front, String.ofList back, ?_, ?_⟩
  · rw [← String.ofList_append, ← cut, String.ofList_toList]
  · rw [← utf8ByteSize_ofList]
    rfl

end Text

namespace Token

open Text

/-! ## Gaps -/

/-- What may stand before `after`, between tokens or at the end: white space, and comments that run up to the end of
their line or of the text. -/
inductive Gap (after : List Char) : List Char → Prop
  | nil : Gap after []
  | space {c : Char} {gap : List Char} (space : c ∈ [' ', '\t', '\r', '\n']) (rest : Gap after gap) :
      Gap after (c :: gap)
  | comment {body gap : List Char} (inLine : ∀ c ∈ body, c ≠ '\r' ∧ c ≠ '\n')
      (ends : ∀ c ∈ (gap ++ after).head?, c = '\r' ∨ c = '\n') (rest : Gap after gap) :
      Gap after ('#' :: body ++ gap)

theorem exists_gap_of_skipFrom (inComment : Bool) (cs : List Char) :
    ∃ body gap, cs = body ++ (gap ++ skipFrom inComment cs) ∧ (inComment = false → body = []) ∧
      (∀ c ∈ body, c ≠ '\r' ∧ c ≠ '\n') ∧ Gap (skipFrom inComment cs) gap ∧
      (inComment = true → ∀ c ∈ (gap ++ skipFrom inComment cs).head?, c = '\r' ∨ c = '\n') := by
  fun_induction skipFrom inComment cs with
  | case1 => exact ⟨[], [], rfl, fun _ => rfl, by simp, .nil, by simp⟩
  | case2 c cs ih =>
    obtain ⟨body, gap, cut, start, inLine, rest, ends⟩ := ih
    by_cases line : c = '\r' ∨ c = '\n'
    · -- The end of the line ends the comment and is white space itself.
      have ended : (!(c == '\n' || c == '\r')) = false := by rcases line with rfl | rfl <;> rfl
      rw [ended] at cut start rest ⊢
      obtain rfl := start rfl
      refine ⟨[], c :: gap, by simpa using cut, fun _ => rfl, by simp, .space ?_ rest, fun _ => by simpa using line⟩
      rcases line with rfl | rfl <;> simp
    · obtain ⟨other, other'⟩ := not_or.mp line
      have goes : (!(c == '\n' || c == '\r')) = true := by simp [other, other']
      rw [goes] at cut rest ends ⊢
      have inLine' := List.forall_mem_cons.mpr ⟨⟨other, other'⟩, inLine⟩
      exact ⟨c :: body, gap, by simpa using cut, by simp, inLine', rest, ends⟩
  | case3 c cs space ih =>
    obtain ⟨body, gap, cut, start, -, rest, -⟩ := ih
    obtain rfl := start rfl
    refine ⟨[], c :: gap, by simpa using cut, fun _ => rfl, by simp, .space ?_ rest, by simp⟩
    simpa [isSpace, or_assoc] using space
  | case4 cs _ ih =>
    obtain ⟨body, gap, cut, -, inLine, rest, ends⟩ := ih
    exact ⟨[], '#' :: body ++ gap, by simpa using cut, fun _ => rfl, by simp, .comment inLine (ends rfl) rest, by simp⟩
  | case5 c cs => exact ⟨[], [], rfl, fun _ => rfl, by simp, .nil, by simp⟩

theorem exists_gap (cs : List Char) : ∃ gap, cs = gap ++ skip cs ∧ Gap (skip cs) gap := by
  obtain ⟨body, gap, cut, start, -, rest, -⟩ := exists_gap_of_skipFrom false cs
  obtain rfl := start rfl
  exact ⟨gap, cut, rest⟩

/-! ## Tokens over a text -/

/-- The tokens of a text that starts at byte `offset`, each over its own characters, with gaps before them. -/
inductive Covers : Nat → List Char → List Token → Prop
  | done {offset : Nat} {gap : List Char} (blank : Gap [] gap) :
      Covers offset gap [⟨.eof, offset + byteSize gap, offset + byteSize gap⟩]
  | token {offset start stop : Nat} {gap word rest : List Char} {kind : Kind} {tokens : List Token}
      (blank : Gap (word ++ rest) gap) (nonempty : word ≠ []) (inner : kind ≠ .eof)
      (starts : start = offset + byteSize gap) (stops : stop = start + byteSize word)
      (later : Covers stop rest tokens) :
      Covers offset (gap ++ (word ++ rest)) (⟨kind, start, stop⟩ :: tokens)

theorem covers_of_scanFrom {offset : Nat} {cs : List Char} {tokens : List Token}
    (scanned : scanFrom offset cs = .ok tokens) : Covers offset cs tokens := by
  fun_induction scanFrom offset cs generalizing tokens with
  | case1 offset cs start =>
    have skipped : skip cs = [] := ‹skip cs = []›
    obtain ⟨gap, cut, blank⟩ := exists_gap cs
    rw [skipped] at cut blank
    cases scanned
    rw [List.append_nil] at cut
    subst cut
    simpa [start, skipped, byteSize] using @Covers.done offset _ blank
  | case2 => cases scanned
  | case3 offset cs start c rest skipped kind after found stop =>
    rename_i ih
    obtain ⟨gap, cut, blank⟩ := exists_gap cs
    obtain ⟨word, nonempty, spelt⟩ := rest_of_scanOne? found
    rw [skipped, spelt] at cut blank
    cases later : scanFrom stop after with
    | error fault => rw [later] at scanned; cases scanned
    | ok tokens =>
      rw [later] at scanned
      cases scanned
      have starts : start = offset + byteSize gap := by
        have total := congrArg byteSize cut
        simp only [byteSize_append] at total
        simp only [start, skipped, spelt, byteSize_append]
        omega
      have stops : stop = start + byteSize word := by
        simp only [stop, spelt, byteSize_append]
        omega
      rw [cut]
      exact .token blank nonempty (scanOne?_ne_eof found).1 starts stops (ih later)

namespace Covers

variable {offset : Nat} {cs : List Char} {tokens : List Token}

theorem ends (covers : Covers offset cs tokens) :
    ∃ front, tokens = front ++ [⟨.eof, offset + byteSize cs, offset + byteSize cs⟩] ∧
      ∀ t ∈ front, t.kind ≠ .eof ∧ t.start < t.stop := by
  induction covers with
  | done => exact ⟨[], rfl, by simp⟩
  | @token offset start stop gap word rest kind tokens _ nonempty inner starts stops later ih =>
    obtain ⟨front, rfl, spans⟩ := ih
    have := byteSize_pos nonempty
    refine ⟨⟨kind, start, stop⟩ :: front, ?_, List.forall_mem_cons.mpr ⟨⟨inner, ?_⟩, spans⟩⟩
    · have total : offset + byteSize (gap ++ (word ++ rest)) = stop + byteSize rest := by
        simp only [byteSize_append]
        omega
      rw [total, List.cons_append]
    · dsimp only
      omega

theorem offset_le (covers : Covers offset cs tokens) : ∀ t ∈ tokens, offset ≤ t.start := by
  induction covers with
  | done => simp
  | @token offset start stop gap word rest kind tokens _ _ _ starts stops later ih =>
    refine List.forall_mem_cons.mpr ⟨?_, fun t member => ?_⟩
    · dsimp only
      omega
    · have := ih t member
      omega

theorem pairwise (covers : Covers offset cs tokens) :
    tokens.Pairwise fun t u => t.start < u.start ∧ t.stop ≤ u.start := by
  induction covers with
  | done => exact List.pairwise_singleton _ _
  | @token offset start stop gap word rest kind tokens _ nonempty _ starts stops later ih =>
    have := byteSize_pos nonempty
    refine List.pairwise_cons.mpr ⟨fun u member => ?_, ih⟩
    have := later.offset_le u member
    dsimp only
    omega

theorem boundaries (covers : Covers offset cs tokens) :
    ∀ t ∈ tokens, (∃ front back, cs = front ++ back ∧ t.start = offset + byteSize front) ∧
      ∃ front back, cs = front ++ back ∧ t.stop = offset + byteSize front := by
  induction covers with
  | @done offset gap =>
    intro t member
    obtain rfl := List.mem_singleton.mp member
    exact ⟨⟨gap, [], by simp, rfl⟩, gap, [], by simp, rfl⟩
  | @token offset start stop gap word rest kind tokens _ _ _ starts stops later ih =>
    have total : byteSize (gap ++ word) = byteSize gap + byteSize word := byteSize_append gap word
    refine List.forall_mem_cons.mpr ⟨⟨⟨gap, word ++ rest, rfl, starts⟩, gap ++ word, rest, by simp, ?_⟩, ?_⟩
    · dsimp only
      omega
    · -- A place in the rest is a place in the text, behind the gap and the first token.
      have behind : ∀ {n : Nat}, (∃ front back, rest = front ++ back ∧ n = stop + byteSize front) →
          ∃ front back, gap ++ (word ++ rest) = front ++ back ∧ n = offset + byteSize front := by
        rintro n ⟨front, back, rfl, rfl⟩
        refine ⟨gap ++ word ++ front, back, by simp, ?_⟩
        rw [byteSize_append]
        omega
      exact fun t member => ⟨behind (ih t member).1, behind (ih t member).2⟩

end Covers

def gapEdges (start : Nat) (tokens : List Token) (stop : Nat) : List (Nat × Nat) :=
  (start :: tokens.map Token.stop).zip (tokens.map Token.start ++ [stop])

theorem Covers.gaps {offset : Nat} {cs : List Char} {tokens : List Token} (covers : Covers offset cs tokens) :
    ∀ edge ∈ gapEdges offset tokens (offset + byteSize cs), ∃ front gap back, cs = front ++ gap ++ back ∧
      edge = (offset + byteSize front, offset + byteSize (front ++ gap)) ∧ Gap back gap := by
  induction covers with
  | @done offset gap blank =>
    intro edge member
    simp only [gapEdges, List.map_cons, List.map_nil, List.cons_append, List.nil_append, List.zip_cons_cons,
      List.zip_nil_right, List.mem_cons, List.not_mem_nil, or_false] at member
    rcases member with rfl | rfl
    · exact ⟨[], gap, [], by simp, by simp [byteSize], blank⟩
    · exact ⟨gap, [], [], by simp, by simp, .nil⟩
  | @token offset start stop gap word rest kind tokens blank _ _ starts stops later ih =>
    have total : byteSize (gap ++ word) = byteSize gap + byteSize word := byteSize_append gap word
    have whole : offset + byteSize (gap ++ (word ++ rest)) = stop + byteSize rest := by
      simp only [byteSize_append]
      omega
    refine List.forall_mem_cons.mpr ⟨⟨[], gap, word ++ rest, by simp, by simp [byteSize, starts], blank⟩, ?_⟩
    intro edge member
    rw [whole] at member
    obtain ⟨front, inner, back, rfl, rfl, blank⟩ := ih edge member
    refine ⟨gap ++ word ++ front, inner, back, by simp, ?_, blank⟩
    simp only [byteSize_append, Prod.mk.injEq]
    omega

/-- Every byte of a text that lexes belongs to one token or to a gap. -/
theorem tokenize_accounts {text : String} {tokens : List Token} (lexed : tokenize text = .ok tokens) :
    (∀ t ∈ tokens, String.Pos.Raw.IsValid text ⟨t.start⟩ ∧ String.Pos.Raw.IsValid text ⟨t.stop⟩) ∧
    tokens.Pairwise (fun t u => t.start < u.start ∧ t.stop ≤ u.start) ∧
    (∃ front, tokens = front ++ [⟨.eof, text.utf8ByteSize, text.utf8ByteSize⟩] ∧
      ∀ t ∈ front, t.kind ≠ .eof ∧ t.start < t.stop) ∧
    ∀ edge ∈ gapEdges 0 tokens text.utf8ByteSize,
      Gap (dropBytes edge.2 text.toList) (slice edge.1 edge.2 text.toList) := by
  have covers : Covers 0 text.toList tokens := by
    unfold tokenize at lexed
    split at lexed
    · next scanned =>
      cases lexed
      exact covers_of_scanFrom scanned
    · cases lexed
  have size : text.utf8ByteSize = 0 + byteSize text.toList := by
    rw [Nat.zero_add, ← utf8ByteSize_ofList, String.ofList_toList]
  rw [size]
  refine ⟨fun t member => ?_, covers.pairwise, covers.ends, fun edge member => ?_⟩
  · obtain ⟨⟨front, back, cut, starts⟩, front', back', cut', stops⟩ := covers.boundaries t member
    rw [starts, stops, Nat.zero_add, Nat.zero_add]
    exact ⟨isValid_byteSize cut, isValid_byteSize cut'⟩
  · obtain ⟨front, gap, back, cut, rfl, blank⟩ := covers.gaps edge member
    simp only [Nat.zero_add, cut, slice_append, dropBytes_byteSize]
    exact blank

/-- A comment that ends at a carriage return, and characters of more than one byte. -/
theorem tokenize_accounts_commented :
    tokenize "#é\r?ñ <é>" = .ok [⟨.var "ñ", 4, 7⟩, ⟨.iri "é", 8, 12⟩, ⟨.eof, 12, 12⟩] ∧
      Gap "?ñ <é>".toList "#é\r".toList ∧ Gap "<é>".toList [' '] := by
  have lexed : tokenize "#é\r?ñ <é>" = .ok [⟨.var "ñ", 4, 7⟩, ⟨.iri "é", 8, 12⟩, ⟨.eof, 12, 12⟩] := by decide +kernel
  obtain ⟨-, -, -, gaps⟩ := tokenize_accounts lexed
  exact ⟨lexed, gaps (0, 4) (by decide), gaps (7, 8) (by decide)⟩

end Token

end TemplateQuery
