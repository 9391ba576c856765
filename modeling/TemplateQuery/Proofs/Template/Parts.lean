import Mathlib.Data.List.DropRight
import TemplateQuery.Proofs.Template.Table
import TemplateQuery.Proofs.Text.Infix
import TemplateQuery.Proofs.Token.Cut

/-! The parts of a text that is read as a template: what is kept of it, the blanks that are trimmed off, and the last
table outside all braces. What is kept has the tokens that stand before the table. -/

set_option autoImplicit false

namespace TemplateQuery

/-! ## Cutting and trimming -/

namespace Text

theorem exists_trimmed (cs : List Char) :
    ∃ removed, cs = trimEnd cs ++ removed ∧ ∀ c ∈ removed, isBlank c = true := by
  refine ⟨(cs.reverse.takeWhile isBlank).reverse, ?_, ?_⟩
  · rw [trimEnd, ← List.reverse_append, List.takeWhile_append_dropWhile, List.reverse_reverse]
  · intro c member
    exact List.all_eq_true.mp List.all_takeWhile c (List.mem_reverse.mp member)

theorem trimEnd_append_blank {c : Char} (blank : isBlank c = true) (cs : List Char) :
    trimEnd (cs ++ [c]) = trimEnd cs := by
  simp [trimEnd, blank]

theorem trimEnd_trimEnd (cs : List Char) : trimEnd (trimEnd cs) = trimEnd cs := by
  rw [trimEnd, trimEnd, List.reverse_reverse, List.dropWhile_idempotent]

theorem mem_takeWhile_append {p : Char → Bool} {front : List Char} (all : ∀ c ∈ front, p c = true) (back : List Char)
    {c : Char} (member : c ∈ front) : c ∈ (front ++ back).takeWhile p := by
  rw [List.takeWhile_append_of_pos all]
  exact List.mem_append_left _ member

end Text

/-! ## Where a token starts -/

namespace Token

open Text

theorem reaches_of_scanFrom {offset : Nat} {cs : List Char} {front later : List Token} {t : Token}
    (scanned : scanFrom offset cs = .ok (front ++ t :: later)) :
    ∃ before after, cs = before ++ after ∧ t.start = offset + byteSize before ∧
      Reaches cs (front.map Token.kind) after ∧ Lexes after (t.kind :: later.map Token.kind) := by
  generalize split : front ++ t :: later = tokens at scanned
  fun_induction scanFrom offset cs generalizing front tokens with
  | case1 offset cs start =>
    have skipped : skip cs = [] := ‹skip cs = []›
    cases scanned
    obtain ⟨rfl, same⟩ : front = [] ∧ t :: later = [⟨.eof, start, start⟩] := by
      cases front with
      | nil => exact ⟨rfl, split⟩
      | cons x front => simp at split
    cases same
    exact ⟨cs, [], by simp, by simp [start, skipped, byteSize], .here skipped, .done rfl⟩
  | case2 => cases scanned
  | case3 offset cs start c rest skipped kind after found stop =>
    rename_i ih
    obtain ⟨tokens, read, rfl⟩ := ok_of_map scanned
    -- Before the token at hand lies a gap, and before a later one the token itself as well.
    obtain ⟨gap, whole⟩ := skipFrom_suffix false cs
    rw [show skipFrom false cs = c :: rest from skipped] at whole
    have begins : start = offset + byteSize gap := by
      have total := congrArg byteSize whole
      rw [byteSize_append] at total
      simp only [start, skipped, ← total]
      omega
    cases front with
    | nil =>
      obtain ⟨rfl, rfl⟩ := List.cons.inj split
      have front : skip (c :: rest) = c :: rest := by
        have again := skip_skipFrom false cs
        rwa [show skipFrom false cs = c :: rest from skipped] at again
      exact ⟨gap, c :: rest, whole.symm, begins, .here skipped, .token front found (lexes_of_scanFrom read)⟩
    | cons x front =>
      obtain ⟨rfl, same⟩ := List.cons.inj split
      obtain ⟨before, final, cut, startsAt, reaches, lexes⟩ := ih tokens same read
      obtain ⟨word, -, spelt⟩ := rest_of_scanOne? found
      refine ⟨gap ++ word ++ before, final, ?_, ?_, .token skipped found reaches, lexes⟩
      · rw [← whole, spelt, cut]
        simp
      · rw [startsAt]
        simp only [stop, begins, spelt, byteSize_append]
        omega

theorem reaches_of_tokenize {text : String} {front later : List Token} {t : Token}
    (scanned : tokenize text = .ok (front ++ t :: later)) :
    ∃ before after, text.toList = before ++ after ∧ t.start = byteSize before ∧
      Reaches text.toList (front.map Token.kind) after ∧ Lexes after (t.kind :: later.map Token.kind) := by
  unfold tokenize at scanned
  split at scanned
  · next read =>
    cases scanned
    simpa using reaches_of_scanFrom read
  · cases scanned

theorem takeBytes_of_reaches {text : String} {front later : Tokens} {t : Token} {before after : List Char}
    (scanned : tokenize text = .ok (front ++ t :: later)) (cut : text.toList = before ++ after)
    (reaches : Reaches text.toList (front.map Token.kind) after) :
    takeBytes (Tokens.offset (t :: later)) text.toList = before := by
  obtain ⟨gone, rest, same, begins, again, -⟩ := reaches_of_tokenize scanned
  obtain rfl := reaches.unique again
  obtain rfl := List.append_cancel_right (same.symm.trans cut)
  rw [cut, Tokens.offset, begins, takeBytes_byteSize]

end Token

namespace Template

open Token Query Tokens

variable {q : Template}

/-! ## The last table -/

theorem startsTable_iff {kind : Kind} :
    startsTable kind = true ↔ kind = .keyword .bindings ∨ kind = .keyword .values := by
  simp [startsTable]

theorem lastTable?_absent {ts : Tokens} (absent : ∀ kind ∈ ts.map Token.kind, startsTable kind = false) (depth : Nat) :
    lastTable? depth ts = none := by
  induction ts generalizing depth with
  | nil => rfl
  | cons t ts ih =>
    obtain ⟨other, absent⟩ := List.forall_mem_cons.mp absent
    rw [lastTable?, ih absent, other]
    simp

/-- A table outside all braces is the last one when no other starts after it. -/
theorem lastTable?_append {depth : Nat} {front later : Tokens} {t : Token}
    (level : (front.map Token.kind).foldl depthAfter depth = 0) (starts : startsTable t.kind = true)
    (absent : ∀ kind ∈ later.map Token.kind, startsTable kind = false) :
    lastTable? depth (front ++ t :: later) = some (t :: later) := by
  induction front generalizing depth with
  | nil =>
    obtain rfl : depth = 0 := level
    rw [List.nil_append, lastTable?, lastTable?_absent absent, starts]
    rfl
  | cons u front ih => rw [List.cons_append, lastTable?, ih level, Option.some_or]

theorem opensTable_of_readNames {fuel : Nat} {ts rest : Tokens} {names : List String}
    (ran : readNames fuel ts = (names, rest)) (brace : rest.kind = .punct .lbrace) : opensTable ts.kind = true := by
  cases fuel with
  | zero => cases ran; rw [brace]; rfl
  | succ fuel =>
    unfold readNames at ran
    split at ran
    · next named => rw [named]; rfl
    · cases ran; rw [brace]; rfl

theorem opensTable_of_readInline {p : Prologue} {ts rest : Tokens} {data : Option Inline}
    (starts : startsTable ts.kind = true) (ran : readInline p ts = .ok (data, rest)) :
    opensTable ts.advance.kind = true := by
  have accepted : (ts.accept? (.keyword .values)).or (ts.accept? (.keyword .bindings)) = some ts.advance := by
    unfold accept?
    rcases startsTable_iff.mp starts with kind | kind <;> simp [kind]
  rw [readInline_eq, accepted] at ran
  obtain ⟨⟨names, brace⟩, head, ran⟩ := ok_of_bind ran
  obtain ⟨body, opened, ran⟩ := ok_of_bind ran
  unfold readHead at head
  split at head
  · next inner found =>
    rw [(accept?_eq_some_iff.mp found).1]
    rfl
  · have brace := (accept?_eq_some_iff.mp (accept?_of_expect opened)).1
    exact opensTable_of_readNames (Except.ok.inj head) brace

/-! ## Kept text, blanks and table -/

/-- A text as the text of a template, blanks, and the table that is read at its end. -/
structure Parts (text : String) (q : Template) where
  prologue : Prologue
  /-- The tokens before the table, its keyword, and those after the keyword. -/
  front : Tokens
  table : Token
  later : Tokens
  /-- What is trimmed off, and the text from the table on. -/
  removed : List Char
  after : List Char
  scanned : tokenize text = .ok (front ++ table :: later)
  declared : ∃ rest, readPrologue {} (front ++ table :: later).length (front ++ table :: later) = .ok (prologue, rest)
  namespaces : q.namespaces = prologue.namespaces
  starts : startsTable table.kind = true
  outside : (front.map Token.kind).foldl depthAfter 0 = 0
  opens : opensTable later.kind = true
  whole : text.toList = q.text.toList ++ (removed ++ after)
  trimmed : Text.trimEnd q.text.toList = q.text.toList
  blank : ∀ c ∈ removed, Text.isBlank c = true
  reaches : Reaches text.toList (front.map Token.kind) after
  lexes : Lexes after (table.kind :: later.map Token.kind)

theorem exists_parts {text systemId : String} (read : ofText text systemId = .ok q) (declared : q.bindings ≠ []) :
    Nonempty (Parts text q) := by
  obtain ⟨tokens, p, body, scanned, prologue, -, namespaces, bare | ⟨table, data, rest, found, inline, kept, -⟩⟩ :=
    ofText_ok read
  · exact absurd bare declared
  · obtain ⟨front, t, later, rfl, rfl, starts, outside⟩ := lastTable?_split found
    have atTable : startsTable (Tokens.kind (t :: later)) = true := starts
    have opens := opensTable_of_readInline atTable inline
    have more : t.kind ≠ .eof := by
      intro atEnd
      rw [atEnd] at starts
      cases starts
    rw [advance, if_neg more] at opens
    obtain ⟨before, after, whole, -, reaches, lexes⟩ := reaches_of_tokenize scanned
    -- The offset of the table counts the bytes before it, which are therefore what is kept and then trimmed.
    have kept : q.text.toList = Text.trimEnd before := by
      rw [kept, String.toList_ofList, takeBytes_of_reaches scanned whole reaches]
    obtain ⟨removed, cut, blank⟩ := Text.exists_trimmed before
    exact ⟨{
      prologue := p
      front
      table := t
      later
      removed
      after
      scanned
      declared := ⟨body, prologue⟩
      namespaces
      starts
      outside
      opens
      whole := by rw [kept, whole, ← List.append_assoc, ← cut]
      trimmed := by rw [kept, Text.trimEnd_trimEnd]
      blank
      reaches
      lexes }⟩

namespace Parts

variable {text : String}

theorem loose (parts : Parts text q)
    (uncut : oghamSpace ∉ (text.toList.drop q.text.toList.length).takeWhile Text.isBlank) :
    ∀ c ∈ parts.removed, isFirm c = false := by
  intro c member
  have dropped : text.toList.drop q.text.toList.length = parts.removed ++ parts.after := by
    rw [parts.whole, List.drop_left]
  rw [dropped] at uncut
  have other : c ≠ oghamSpace := by
    rintro rfl
    exact uncut (Text.mem_takeWhile_append parts.blank parts.after member)
  simp [isFirm, parts.blank c member, other]

theorem severable (parts : Parts text q) (loose : ∀ c ∈ parts.removed, isFirm c = false) :
    Severable (parts.removed ++ parts.after) := by
  cases shape : parts.removed with
  | cons c removed => exact severable_of_loose (loose c (by simp [shape])) (removed ++ parts.after)
  | nil =>
    -- The text is cut right before the keyword, which no token goes on with: a letter comes first, and after the
    -- letters what opens a table.
    obtain ⟨k, which, keyword⟩ : ∃ k, (k = .values ∨ k = .bindings) ∧ parts.table.kind = .keyword k := by
      rcases startsTable_iff.mp parts.starts with kind | kind
      · exact ⟨.bindings, .inr rfl, kind⟩
      · exact ⟨.values, .inl rfl, kind⟩
    obtain ⟨kind, kinds, following, opens⟩ : ∃ kind kinds, parts.later.map Token.kind = kind :: kinds ∧
        opensTable kind = true := by
      have opens := parts.opens
      cases shape : parts.later with
      | nil => rw [shape] at opens; cases opens
      | cons t later => rw [shape] at opens; exact ⟨t.kind, later.map Token.kind, rfl, opens⟩
    have lexes := parts.lexes
    rw [keyword, following] at lexes
    cases lexes with
    | token skipped scanned later =>
      rw [parts.reaches.skip_eq] at skipped
      rw [List.nil_append, skipped]
      exact severable_of_keyword which scanned later opens

theorem plain (parts : Parts text q) (plain : Text.contains opening text.toList = false) :
    Text.contains opening q.text.toList = false := by
  rw [Bool.eq_false_iff, Ne, Text.contains_iff_infix] at plain ⊢
  rw [parts.whole] at plain
  exact fun found => plain (found.trans (List.prefix_append _ _).isInfix)

theorem keeps (parts : Parts text q) (loose : ∀ c ∈ parts.removed, isFirm c = false)
    (plain : Text.contains opening text.toList = false) :
    Lexes q.text.toList (parts.front.map Token.kind ++ [Kind.eof]) := by
  have unopened : ¬ opening <:+: text.toList := by rwa [← Text.contains_iff_infix, Bool.not_eq_true]
  have reaches := parts.reaches
  rw [parts.whole] at unopened reaches
  exact reaches.cut (parts.severable loose) loose unopened

end Parts

end Template

end TemplateQuery
