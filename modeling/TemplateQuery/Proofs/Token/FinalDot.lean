import TemplateQuery.Proofs.Term.Pattern
import TemplateQuery.Proofs.Token.Spans

/-! The dot that ends a statement right behind its last term. No token is spelt with a bare dot at its end, so the dot
should be a token of its own. The readers of names look at most one character past a dot, which is too little for two
dots in a row, and the reader of blank node labels takes the last dot and then refuses. Main statement:
`final_dot_iff`. -/

set_option autoImplicit false

namespace TemplateQuery

namespace Token

open Text

/-! ## Spellings -/

/-- A text in pieces, each with what it stands for. -/
inductive Pieces (piece : List Char → List Char → Prop) : List Char → List Char → Prop
  | nil : Pieces piece [] []
  | cons {front text cs rest : List Char} (first : piece front text) (later : Pieces piece cs rest) :
      Pieces piece (front ++ cs) (text ++ rest)

inductive CodePoint : List Char → Char → Prop
  | short {a b c d x : Char} (known : hexChar? [a, b, c, d] = some x) : CodePoint ['\\', 'u', a, b, c, d] x
  | long {a b c d e f g h x : Char} (known : hexChar? [a, b, c, d, e, f, g, h] = some x) :
      CodePoint ['\\', 'U', a, b, c, d, e, f, g, h] x

inductive IriPiece : List Char → List Char → Prop
  | plain {c : Char} (inside : isIriChar c = true) : IriPiece [c] [c]
  | coded {front : List Char} {x : Char} (code : CodePoint front x) : IriPiece front [x]

/-- Characters of a string; those `barred` stand there only behind a backslash. -/
inductive TextPiece (barred : List Char) : List Char → List Char → Prop
  | plain {c : Char} (free : c ∉ barred) : TextPiece barred [c] [c]
  | simple {c x : Char} (known : simpleEscape? c = some x) : TextPiece barred ['\\', c] [x]
  | coded {front : List Char} {x : Char} (code : CodePoint front x) : TextPiece barred front [x]

/-- Between tripled quotes, one or two quotes may stand before another character. -/
inductive LongPiece (quote : Char) : List Char → List Char → Prop
  | quoted {n : Nat} {front text : List Char} (few : n ≤ 2) (item : TextPiece [quote, '\\'] front text) :
      LongPiece quote (List.replicate n quote ++ front) (List.replicate n quote ++ text)

inductive LocalPiece : List Char → List Char → Prop
  | plain {c : Char} (inside : (isNameChar c || c == ':') = true) : LocalPiece [c] [c]
  | percent {a b : Char} (hex : (isHex a && isHex b) = true) : LocalPiece ['%', a, b] ['%', a, b]
  | escape {c : Char} (known : isLocalEscape c = true) : LocalPiece ['\\', c] [c]

/-- A local part from some point on. It does not end in a bare dot. -/
inductive LocalRun : List Char → List Char → Prop
  | nil : LocalRun [] []
  | piece {front text cs rest : List Char} (first : LocalPiece front text) (later : LocalRun cs rest) :
      LocalRun (front ++ cs) (text ++ rest)
  | dot {cs rest : List Char} (goesOn : cs ≠ []) (later : LocalRun cs rest) : LocalRun ('.' :: cs) ('.' :: rest)

def startsLocal (cs : List Char) : Bool := cs.head?.any fun c => isLocalStart c || c == '%' || c == '\\'

inductive Spells : List Char → Kind → Prop
  | iri {body text : List Char} (inside : Pieces IriPiece body text)
      (absolute : Iri.isAbsolute (String.ofList text) = true) :
      Spells ('<' :: body ++ ['>']) (.iri (String.ofList text))
  | prefixed {label body text : List Char} (legal : isPrefixName label = true) (starts : startsLocal body = true)
      (inside : LocalRun body text) :
      Spells (label ++ ':' :: body) (.prefixed (String.ofList label) (String.ofList text))
  | var {name : List Char} (valid : isVarName name = true) : Spells ('?' :: name) (.var (String.ofList name))
  | short {quote : Char} {body text : List Char} (mark : isQuote quote = true)
      (inside : Pieces (TextPiece [quote, '\\', '\n', '\r']) body text) :
      Spells (quote :: body ++ [quote]) (.string (String.ofList text))
  | long {quote : Char} {body text : List Char} (mark : isQuote quote = true)
      (inside : Pieces (LongPiece quote) body text) :
      Spells (quote :: quote :: quote :: body ++ [quote, quote, quote]) (.string (String.ofList text))
  | integer {front : List Char} (nonempty : front ≠ []) (inside : ∀ c ∈ front, c.isDigit = true) :
      Spells front (.integer (String.ofList front))
  | blank {label : List Char} (valid : isBlankLabel label = true) :
      Spells ('_' :: ':' :: label) (.blank (String.ofList label))

def hasDoubleDot : List Char → Bool
  | [] => false
  | '\\' :: _ :: cs => hasDoubleDot cs
  | '.' :: '.' :: _ => true
  | _ :: cs => hasDoubleDot cs

/-- Terms that a dot right behind them does not spoil. -/
def SplitsOff (spelling : List Char) : Kind → Prop
  | .blank _ => False
  | .prefixed _ _ => hasDoubleDot spelling = false
  | _ => True

/-! ## Readers of delimited text -/

theorem Pieces.read {piece : List Char → List Char → Prop} {reader : List Char → Found (List Char)}
    (step : ∀ {front text cs found after}, piece front text → reader cs = some (found, after) →
      reader (front ++ cs) = some (text ++ found, after))
    {body text tail after : List Char} (pieces : Pieces piece body text) (ended : reader tail = some ([], after)) :
    reader (body ++ tail) = some (text, after) := by
  induction pieces with
  | nil => exact ended
  | cons first later ih =>
    rw [List.append_assoc]
    exact step first ih

section Delimited

variable {front text body cs found after tail : List Char} {quote x : Char}

theorem CodePoint.read {reader : List Char → Found (List Char)}
    (short : ∀ a b c d cs,
      reader ('\\' :: 'u' :: a :: b :: c :: d :: cs) = prepend (hexChar? [a, b, c, d]) (reader cs))
    (long : ∀ a b c d e f g h cs, reader ('\\' :: 'U' :: a :: b :: c :: d :: e :: f :: g :: h :: cs) =
      prepend (hexChar? [a, b, c, d, e, f, g, h]) (reader cs))
    (code : CodePoint front x) (read : reader cs = some (found, after)) :
    reader (front ++ cs) = some (x :: found, after) := by
  cases code with
  | short known => simp only [List.cons_append, List.nil_append, short, known, read, prepend]
  | long known => simp only [List.cons_append, List.nil_append, long, known, read, prepend]

theorem IriPiece.iriBody? (piece : IriPiece front text) (read : iriBody? cs = some (found, after)) :
    Token.iriBody? (front ++ cs) = some (text ++ found, after) := by
  cases piece with
  | coded code => exact code.read (fun _ _ _ _ _ => rfl) (fun _ _ _ _ _ _ _ _ _ => rfl) read
  | @plain c inside =>
    have apart : c ≠ '\\' ∧ c ≠ '>' := by
      constructor <;> (rintro rfl; exact absurd inside (by decide))
    rw [List.cons_append, List.nil_append, iriBody?_cons apart.1, if_neg apart.2, if_pos inside, read]
    rfl

theorem TextPiece.shortBody? (piece : TextPiece [quote, '\\', '\n', '\r'] front text)
    (read : shortBody? quote cs = some (found, after)) :
    Token.shortBody? quote (front ++ cs) = some (text ++ found, after) := by
  cases piece with
  | coded code => exact code.read (fun _ _ _ _ _ => rfl) (fun _ _ _ _ _ _ _ _ _ => rfl) read
  | @plain c free =>
    simp only [List.mem_cons, List.not_mem_nil, or_false, not_or] at free
    obtain ⟨other, slash, line⟩ := free
    rw [List.cons_append, List.nil_append, shortBody?_cons quote slash, if_neg other, if_neg (by simp [slash, line]),
      read]
    rfl
  | @simple c x known =>
    have plain : c ≠ 'u' ∧ c ≠ 'U' := by constructor <;> (rintro rfl; cases known)
    rw [List.cons_append, List.cons_append, List.nil_append, shortBody?_escape quote plain, known, read]
    rfl

theorem TextPiece.longBody? (piece : TextPiece [quote, '\\'] front text)
    (read : longBody? quote cs = some (found, after)) :
    Token.longBody? quote (front ++ cs) = some (text ++ found, after) := by
  cases piece with
  | coded code => exact code.read (fun _ _ _ _ _ => rfl) (fun _ _ _ _ _ _ _ _ _ => rfl) read
  | @plain c free =>
    simp only [List.mem_cons, List.not_mem_nil, or_false, not_or] at free
    obtain ⟨other, slash⟩ := free
    rw [List.cons_append, List.nil_append, longBody?_cons quote slash, if_neg (by simp [other]), read]
    rfl
  | @simple c x known =>
    have plain : c ≠ 'u' ∧ c ≠ 'U' := by constructor <;> (rintro rfl; cases known)
    rw [List.cons_append, List.cons_append, List.nil_append, longBody?_escape quote plain, known, read]
    rfl

theorem TextPiece.head (plain : quote ≠ '\\') (piece : TextPiece [quote, '\\'] front text) :
    ∃ c rest, front = c :: rest ∧ c ≠ quote := by
  cases piece with
  | plain free => exact ⟨_, _, rfl, fun same => free (by simp [same])⟩
  | simple known => exact ⟨_, _, rfl, plain.symm⟩
  | coded code => cases code <;> exact ⟨_, _, rfl, plain.symm⟩

theorem LongPiece.longBody? (plain : quote ≠ '\\') (piece : LongPiece quote front text)
    (read : longBody? quote cs = some (found, after)) :
    Token.longBody? quote (front ++ cs) = some (text ++ found, after) := by
  obtain ⟨few, item⟩ := piece
  rename_i n front text
  have inner := item.longBody? read
  obtain ⟨c, rest, rfl, other⟩ := item.head plain
  -- Two quotes at most are followed by something else, so that no three come together.
  have quoted : ∀ ds : List Char, ds.take 2 ≠ [quote, quote] → ∀ {found : List Char},
      Token.longBody? quote ds = some (found, after) →
      Token.longBody? quote (quote :: ds) = some (quote :: found, after) := by
    intro ds unclosed found read
    rw [longBody?_cons quote plain, if_neg (by simp [unclosed]), read]
    rfl
  match n, few with
  | 0, _ => exact inner
  | 1, _ => exact quoted _ (by simp [other]) inner
  | 2, _ => exact quoted _ (by simp [other]) (quoted _ (by simp [other]) inner)

theorem scanOne?_iriSpelling (inside : Pieces IriPiece body text)
    (absolute : Iri.isAbsolute (String.ofList text) = true) (tail : List Char) :
    scanOne? ('<' :: (body ++ '>' :: tail)) = some (.iri (String.ofList text), tail) := by
  have read : iriBody? (body ++ '>' :: tail) = some (text, tail) := inside.read IriPiece.iriBody? rfl
  refine scanOne?_iri _ read ?_
  -- An equality sign behind the bracket would make it an operator, but an absolute IRI starts with a letter.
  obtain ⟨c, cs, same, letter⟩ := Iri.isAlpha_head_of_isAbsolute absolute
  rw [String.toList_ofList] at same
  cases inside with
  | nil => cases same
  | cons first later =>
    cases first with
    | plain =>
      obtain rfl := (List.cons.inj same).1
      rintro ⟨⟩
      cases letter
    | coded code => cases code <;> rintro ⟨⟩

theorem scanOne?_shortSpelling (mark : isQuote quote = true)
    (inside : Pieces (TextPiece [quote, '\\', '\n', '\r']) body text) (unquoted : tail.head? ≠ some quote) :
    scanOne? (quote :: (body ++ quote :: tail)) = some (.string (String.ofList text), tail) := by
  have plain := ne_slash_of_isQuote mark
  have ended : shortBody? quote (quote :: tail) = some ([], tail) := by
    rw [shortBody?_cons quote plain, if_pos rfl]
  have read : shortBody? quote (body ++ quote :: tail) = some (text, tail) := inside.read TextPiece.shortBody? ended
  -- Two more quotes would open a long string: the body has none to start with, and none follows an empty one.
  have short : (body ++ quote :: tail).take 2 ≠ [quote, quote] := by
    cases inside with
    | nil => cases tail <;> simp_all
    | cons first later =>
      cases first with
      | plain free => rintro same; exact free (by simp [(List.cons.inj same).1])
      | simple => rintro same; exact plain (List.cons.inj same).1.symm
      | coded code => cases code <;> (rintro same; exact plain (List.cons.inj same).1.symm)
  have quoted : (quote = '"' || quote = '\'') = true := mark
  rw [scanOne?_quote mark]
  simp [string?, quoted, short, read]

theorem scanOne?_longSpelling (mark : isQuote quote = true) (inside : Pieces (LongPiece quote) body text)
    (tail : List Char) :
    scanOne? (quote :: quote :: quote :: (body ++ quote :: quote :: quote :: tail)) =
      some (.string (String.ofList text), tail) := by
  have plain := ne_slash_of_isQuote mark
  have ended : longBody? quote (quote :: quote :: quote :: tail) = some ([], tail) := by
    rw [longBody?_cons quote plain, if_pos (by simp)]
    rfl
  have read : longBody? quote (body ++ quote :: quote :: quote :: tail) = some (text, tail) :=
    inside.read (fun piece => piece.longBody? plain) ended
  have quoted : (quote = '"' || quote = '\'') = true := mark
  rw [scanOne?_quote mark]
  simp [string?, quoted, read]

end Delimited

/-! ## Dots in names -/

section Names

variable {c : Char} {front text body cs found after tail label : List Char}

theorem hasDoubleDot_cons (plain : c ≠ '\\') (cs : List Char) :
    hasDoubleDot (c :: cs) = (c == '.' && cs.head? == some '.' || hasDoubleDot cs) := by
  rw [hasDoubleDot.eq_def]
  split
  · next same => cases same
  · next same => exact absurd (List.cons.inj same).1 plain
  · next same => cases same; rfl
  · next single same =>
    cases same
    have apart : (c == '.' && cs.head? == some '.') = false := by
      rw [← Bool.not_eq_true, Bool.and_eq_true, beq_iff_eq, beq_iff_eq]
      rintro ⟨dot, again⟩
      obtain ⟨rest, rfl⟩ := List.head?_eq_some_iff.mp again
      exact single rest dot rfl
    rw [apart, Bool.false_or]

theorem LocalPiece.localBody? (piece : LocalPiece front text) (read : localBody? cs = some (found, after)) :
    Token.localBody? (front ++ cs) = some (text ++ found, after) := by
  cases piece with
  | @plain c inside =>
    have apart : c ≠ '%' ∧ c ≠ '\\' := by
      constructor <;> (rintro rfl; exact absurd inside (by decide))
    rw [List.cons_append, List.nil_append, localBody?_cons apart, if_pos (by simpa using inside), read]
    rfl
  | percent hex =>
    simp only [List.cons_append, List.nil_append]
    rw [localBody?_percent, if_pos hex, read]
    rfl
  | escape known =>
    simp only [List.cons_append, List.nil_append]
    rw [localBody?_slash, if_pos known, read]
    rfl

theorem LocalPiece.continues (piece : LocalPiece front text) (cs : List Char) :
    localContinues (front ++ cs) = true ∧ (front ++ cs).head? ≠ some '.' := by
  cases piece with
  | @plain c inside =>
    have continues : (isNameChar c || c == ':' || c == '%' || c == '\\') = true := by rw [inside]; rfl
    refine ⟨continues, ?_⟩
    rintro ⟨⟩
    exact absurd inside (by decide)
  | percent | escape => exact ⟨rfl, by simp⟩

theorem LocalPiece.hasDoubleDot (piece : LocalPiece front text) (cs : List Char) :
    Token.hasDoubleDot (front ++ cs) = Token.hasDoubleDot cs := by
  cases piece with
  | @plain c inside =>
    have apart : c ≠ '\\' ∧ c ≠ '.' := by
      constructor <;> (rintro rfl; exact absurd inside (by decide))
    simp [hasDoubleDot_cons apart.1, apart.2]
  | @percent a b hex =>
    simp only [Bool.and_eq_true] at hex
    have first : a ≠ '\\' ∧ a ≠ '.' := by
      constructor <;> (rintro rfl; exact absurd hex.1 (by decide))
    have second : b ≠ '\\' ∧ b ≠ '.' := by
      constructor <;> (rintro rfl; exact absurd hex.2 (by decide))
    simp only [List.cons_append, List.nil_append]
    rw [hasDoubleDot_cons (by decide), hasDoubleDot_cons first.1, hasDoubleDot_cons second.1,
      beq_eq_false_iff_ne.mpr first.2, beq_eq_false_iff_ne.mpr second.2]
    rfl
  | escape => rfl

theorem localBody?_dot (cs : List Char) :
    localBody? ('.' :: cs) =
      if localContinues cs then prepend (some '.') (localBody? cs) else some ([], '.' :: cs) := by
  rw [localBody?_cons (by decide), if_neg (by decide)]
  simp

theorem LocalRun.continues (run : LocalRun cs text) (goesOn : cs ≠ []) (tail : List Char) :
    localContinues (cs ++ tail) = !(cs.head? == some '.') := by
  cases run with
  | nil => exact absurd rfl goesOn
  | dot => rfl
  | @piece front _ cs _ first later =>
    obtain ⟨continues, other⟩ := first.continues (cs ++ tail)
    rw [List.append_assoc, continues]
    simpa using (first.continues cs).2

theorem LocalRun.localBody? (run : LocalRun body text) (single : hasDoubleDot body = false)
    (stops : localContinues tail = false) : Token.localBody? (body ++ '.' :: tail) = some (text, '.' :: tail) := by
  induction run with
  | nil => simp [localBody?_dot, stops]
  | piece first later ih =>
    rw [first.hasDoubleDot] at single
    rw [List.append_assoc]
    exact first.localBody? (ih single)
  | @dot cs rest goesOn later ih =>
    rw [hasDoubleDot_cons (by decide), Bool.or_eq_false_iff] at single
    have continues : localContinues (cs ++ '.' :: tail) = true := by
      rw [later.continues goesOn]
      simpa using single.1
    rw [List.cons_append, localBody?_dot, if_pos continues, ih single.2]
    rfl

theorem LocalRun.localBody?_double (run : LocalRun body text) (double : hasDoubleDot body = true) (tail : List Char) :
    ∃ found after, Token.localBody? (body ++ tail) = some (found, after) ∧ found.length < text.length := by
  induction run with
  | nil => cases double
  | piece first later ih =>
    rw [first.hasDoubleDot] at double
    obtain ⟨found, after, read, shorter⟩ := ih double
    rw [List.append_assoc]
    exact ⟨_, after, first.localBody? read, by simpa using shorter⟩
  | @dot cs rest goesOn later ih =>
    rw [hasDoubleDot_cons (by decide)] at double
    rw [List.cons_append, localBody?_dot, later.continues goesOn]
    by_cases again : cs.head? = some '.'
    · exact ⟨[], '.' :: (cs ++ tail), by simp [again], by simp⟩
    · obtain ⟨found, after, read, shorter⟩ := ih (by simpa [again] using double)
      exact ⟨'.' :: found, after, by simp [again, read, prepend], by simpa using shorter⟩

theorem localPart?_of_starts (starts : startsLocal body = true) (tail : List Char) :
    localPart? (body ++ tail) = Token.localBody? (body ++ tail) := by
  cases body with
  | nil => cases starts
  | cons c body =>
    have first : (isLocalStart c || c == '%' || c == '\\') = true := starts
    simp [localPart?, first]

theorem slashless_of_isPrefixName (legal : isPrefixName label = true) : ∀ c ∈ label, c ≠ '\\' := by
  cases label with
  | nil => simp
  | cons c cs =>
    simp only [isPrefixName, Bool.and_eq_true, List.all_eq_true] at legal
    rintro d member rfl
    rcases List.mem_cons.mp member with rfl | member
    · exact absurd legal.1.1 (by decide)
    · exact absurd (legal.1.2 _ member) (by decide)

theorem hasDoubleDot_label (slashless : ∀ c ∈ label, c ≠ '\\') (cs : List Char) :
    hasDoubleDot (label ++ ':' :: cs) = true ↔ doubleDot <:+: label ∨ hasDoubleDot cs = true := by
  induction label with
  | nil => simp [hasDoubleDot_cons]
  | cons c label ih =>
    obtain ⟨plain, later⟩ := List.forall_mem_cons.mp slashless
    rw [List.cons_append, hasDoubleDot_cons plain, Bool.or_eq_true, ih later, List.infix_cons_iff, or_assoc]
    refine or_congr_left ?_
    cases label with
    | nil => simp
    | cons d label => simp [@eq_comm _ '.']

theorem scanOne?_prefixedSpelling (legal : isPrefixName label = true) (starts : startsLocal body = true)
    (inside : LocalRun body text) (stops : localContinues tail = false) :
    (hasDoubleDot (label ++ ':' :: body) = false →
      scanOne? (label ++ ':' :: (body ++ '.' :: tail)) =
        some (.prefixed (String.ofList label) (String.ofList text), '.' :: tail)) ∧
    (hasDoubleDot (label ++ ':' :: body) = true → ∃ kind after,
      scanOne? (label ++ ':' :: (body ++ '.' :: tail)) = some (kind, after) ∧
        kind ≠ .prefixed (String.ofList label) (String.ofList text)) := by
  have double := hasDoubleDot_label (slashless_of_isPrefixName legal) body
  obtain ⟨whole, partly⟩ := scanOne?_prefixName legal (body ++ '.' :: tail)
  constructor
  · intro single
    rw [← Bool.not_eq_true, double, not_or, Bool.not_eq_true] at single
    rw [whole single.1, afterColon, localPart?_of_starts starts, inside.localBody? single.2 stops]
  · intro both
    -- In the label the dots make it a word that stops before the colon; in the local part they cut it short.
    by_cases labelled : doubleDot <:+: label
    · obtain ⟨word, rest, scanned, keyword | name⟩ := partly labelled
      · obtain ⟨k, rfl⟩ := keyword
        exact ⟨_, rest, scanned, by simp⟩
      · obtain ⟨name, rfl⟩ := name
        exact ⟨_, rest, scanned, by simp⟩
    · obtain ⟨found, after, read, shorter⟩ :=
        inside.localBody?_double ((double.mp both).resolve_left labelled) ('.' :: tail)
      refine ⟨_, after, by rw [whole labelled, afterColon, localPart?_of_starts starts, read], fun same => ?_⟩
      have equal := congrArg String.toList (Kind.prefixed.inj same).2
      rw [String.toList_ofList, String.toList_ofList] at equal
      rw [equal] at shorter
      exact Nat.lt_irrefl _ shorter

end Names

/-! ## The dot -/

theorem run_before {p : Char → Bool} {front tail : List Char} (inside : ∀ c ∈ front, p c = true)
    (outside : ∀ c ∈ tail.head?, p c = false) :
    (front ++ tail).takeWhile p = front ∧ (front ++ tail).dropWhile p = tail := by
  rw [List.takeWhile_append_of_pos inside, List.dropWhile_append_of_pos inside]
  have taken : tail.takeWhile p = [] := takeWhile_before outside []
  have dropped : tail.dropWhile p = tail := dropWhile_before outside []
  rw [taken, dropped, List.append_nil]
  exact ⟨rfl, rfl⟩

section Dot

variable {tail : List Char} (space : ∀ c ∈ tail.head?, isSpace c = true)

include space

theorem outside_of_space {p : Char → Bool} (blank : p ' ' = false ∧ p '\t' = false ∧ p '\r' = false ∧ p '\n' = false) :
    ∀ c ∈ tail.head?, p c = false :=
  fun c first => of_space (space c first) blank

theorem digits_of_space : digits tail = ([], tail) := by
  have outside : ∀ c ∈ tail.head?, c.isDigit = false := outside_of_space space (by decide)
  obtain ⟨taken, dropped⟩ := run_before (List.forall_mem_nil _) outside
  exact Prod.ext taken dropped

theorem scanOne?_dot : scanOne? ('.' :: tail) = some (.punct .dot, tail) := by
  have none : digits ('.' :: tail) = ([], '.' :: tail) := rfl
  have pointless : ∀ trailing, pointed? trailing ('.' :: tail) = Option.none := by
    intro trailing
    simp [pointed?, none, digits_of_space space]
  rw [scanOne?_plain tail (by decide) (by decide)]
  simp [double?, decimal?, integer?, punct?, punctOf?, pointless, none]

theorem scanOne?_integerSpelling {front : List Char} (nonempty : front ≠ []) (inside : ∀ c ∈ front, c.isDigit = true) :
    scanOne? (front ++ '.' :: tail) = some (.integer (String.ofList front), '.' :: tail) := by
  -- Digits and a point start a number with an exponent, but no exponent follows.
  have run : digits (front ++ '.' :: tail) = (front, '.' :: tail) := by
    have outside : ∀ c ∈ ('.' :: tail).head?, c.isDigit = false := by simp
    obtain ⟨taken, dropped⟩ := run_before inside outside
    exact Prod.ext taken dropped
  have powerless : exponent? tail = none := by
    cases tail with
    | nil => rfl
    | cons c tail =>
      have unmarked : isExponentMark c = false := outside_of_space space (by decide) c rfl
      simp [exponent?, unmarked]
  cases front with
  | nil => exact absurd rfl nonempty
  | cons c front =>
    have digit := inside c List.mem_cons_self
    have after := digits_of_space space
    rw [List.cons_append] at run ⊢
    rw [scanOne?_plain _ (not_mem_of_any digit (by decide)) (isLetter_of_isDigit digit)]
    simp [double?, decimal?, integer?, pointed?, run, after, powerless, isExponentMark]

omit space

theorem scanOne?_varSpelling {name : List Char} (valid : isVarName name = true) (tail : List Char) :
    scanOne? ('?' :: name ++ '.' :: tail) = some (.var (String.ofList name), '.' :: tail) := by
  cases name with
  | nil => cases valid
  | cons c name =>
    simp only [isVarName, Bool.and_eq_true, List.all_eq_true] at valid
    obtain ⟨first, inside⟩ := valid
    have outside : ∀ c ∈ ('.' :: tail).head?, isVarChar c = false := by simp [show isVarChar '.' = false by decide]
    obtain ⟨taken, dropped⟩ := run_before inside outside
    simp only [List.cons_append]
    rw [scanOne?, operator?_eq_none _ (by decide), iri?_eq_none _ (by decide), placeholder?_eq_none _ (by decide)]
    simp [var?, taken, dropped, first]

include space

theorem scanOne?_blankSpelling {label : List Char} (valid : isBlankLabel label = true) :
    scanOne? ('_' :: ':' :: label ++ '.' :: tail) = none := by
  -- The dot is taken for a part of the label, which must not end in one, and nothing else starts like it.
  have unblank : blank? ('_' :: ':' :: label ++ '.' :: tail) = none := by
    cases label with
    | nil => cases valid
    | cons c label =>
      simp only [isBlankLabel, Bool.and_eq_true, List.all_eq_true] at valid
      have outside : ∀ d ∈ tail.head?, (isNameChar d || d == '.') = false := outside_of_space space (by decide)
      have dotted : ∀ d ∈ label ++ ['.'], (isNameChar d || d == '.') = true := by
        rw [List.forall_mem_append]
        exact ⟨valid.1.2, by simp⟩
      obtain ⟨more, -⟩ := run_before dotted outside
      rw [← List.append_cons] at more
      simp [blank?, more]
  have undotted : ∀ trailing, pointed? trailing ('_' :: ':' :: label ++ '.' :: tail) = none :=
    fun trailing => pointed?_eq_none trailing (by simp [digits])
  simp only [List.cons_append] at unblank undotted ⊢
  rw [scanOne?, operator?_eq_none _ (by decide), iri?_eq_none _ (by decide), placeholder?_eq_none _ (by decide),
    var?_eq_none _ (by decide) (by decide), unblank, anon?_eq_none _ (by decide), langTag?_eq_none _ (by decide),
    emptyLabel?_eq_none _ (by decide), word?_eq_none _ (by decide), string?_eq_none _ (by decide) (by decide)]
  simp [double?, decimal?, integer?, punct?, punctOf?, undotted, digits]

theorem Spells.scanOne? {spelling : List Char} {kind : Kind} (spells : Spells spelling kind) :
    (SplitsOff spelling kind → Token.scanOne? (spelling ++ '.' :: tail) = some (kind, '.' :: tail)) ∧
      (¬ SplitsOff spelling kind → ∀ after, Token.scanOne? (spelling ++ '.' :: tail) ≠ some (kind, after)) := by
  have whole {P Q : Prop} (holds : P) : (True → P) ∧ (¬ True → Q) := ⟨fun _ => holds, fun none => absurd trivial none⟩
  cases spells with
  | iri inside absolute =>
    exact whole (by simpa using scanOne?_iriSpelling inside absolute ('.' :: tail))
  | var valid => exact whole (scanOne?_varSpelling valid tail)
  | @short quote body text mark inside =>
    have unquoted : ('.' :: tail).head? ≠ some quote := by rcases isQuote_cases mark with rfl | rfl <;> simp
    exact whole (by simpa using scanOne?_shortSpelling mark inside unquoted)
  | long mark inside => exact whole (by simpa using scanOne?_longSpelling mark inside ('.' :: tail))
  | integer nonempty inside => exact whole (scanOne?_integerSpelling space nonempty inside)
  | blank valid =>
    refine ⟨fun split => split.elim, fun _ after => ?_⟩
    rw [scanOne?_blankSpelling space valid]
    simp
  | prefixed legal starts inside =>
    have stops : localContinues tail = false := by
      have outside : ∀ c ∈ tail.head?, (isNameChar c || c == ':' || c == '%' || c == '\\') = false :=
        outside_of_space space (by decide)
      cases tail with
      | nil => rfl
      | cons c tail => exact outside c rfl
    obtain ⟨apart, partly⟩ := scanOne?_prefixedSpelling legal starts inside stops
    rw [List.append_assoc, List.cons_append]
    refine ⟨apart, fun spoilt after scanned => ?_⟩
    obtain ⟨other, rest, found, differs⟩ := partly (by simpa [SplitsOff] using spoilt)
    rw [found] at scanned
    cases scanned
    exact differs rfl

theorem Spells.scanOne?_blank {spelling : List Char} {label : String} (spells : Spells spelling (.blank label)) :
    Token.scanOne? (spelling ++ '.' :: tail) = none := by
  cases spells with
  | blank valid => exact scanOne?_blankSpelling space valid

end Dot

theorem scanFrom_cons {c : Char} (starts : c ∉ gaps) (cs : List Char) (offset : Nat) :
    scanFrom offset (c :: cs) =
      match scanOne? (c :: cs) with
      | none => .error (offset, c :: cs)
      | some (kind, after) =>
        (scanFrom (offset + (byteSize (c :: cs) - byteSize after)) after).map
          (⟨kind, offset, offset + (byteSize (c :: cs) - byteSize after)⟩ :: ·) := by
  have skipped := skip_of_starts starts cs
  rw [scanFrom]
  split
  · next other => rw [skipped] at other; cases other
  · next same =>
    rw [skipped] at same
    cases same
    rw [skipped, Nat.sub_self, Nat.add_zero]
    split
    · next unread => rw [unread]
    · next found => rw [found]

theorem scanFrom_dot (offset : Nat) :
    scanFrom offset ['.'] = .ok [⟨.punct .dot, offset, offset + 1⟩, ⟨.eof, offset + 1, offset + 1⟩] := by
  have ended : scanFrom (offset + 1) [] = .ok [⟨.eof, offset + 1, offset + 1⟩] := by
    rw [scanFrom]
    rfl
  have size : byteSize ['.'] - byteSize [] = 1 := rfl
  rw [scanFrom_cons (by decide), scanOne?_dot (by simp)]
  simp only [size, ended]
  rfl

theorem Spells.starts {spelling : List Char} {kind : Kind} (spells : Spells spelling kind) :
    ∃ c cs, spelling = c :: cs ∧ c ∉ gaps := by
  cases spells with
  | iri | var | blank => exact ⟨_, _, rfl, by decide⟩
  | @short quote _ _ mark _ | @long quote _ _ mark _ => exact ⟨_, _, rfl, not_mem_of_any mark (by decide)⟩
  | integer nonempty inside =>
    cases spelling with
    | nil => exact absurd rfl nonempty
    | cons c front => exact ⟨_, _, rfl, not_mem_of_any (inside c List.mem_cons_self) (by decide)⟩
  | @prefixed label _ _ legal _ _ =>
    cases label with
    | nil => exact ⟨_, _, rfl, by decide⟩
    | cons c label =>
      simp only [isPrefixName, Bool.and_eq_true] at legal
      exact ⟨_, _, rfl, not_mem_of_any legal.1.1 (by decide)⟩

/-- Up to the end of the text the kinds are those of the term and of the dot exactly for the terms that split off. -/
theorem Spells.lexes_iff {spelling tail : List Char} {kind : Kind} (spells : Spells spelling kind)
    (space : ∀ c ∈ tail.head?, isSpace c = true) (ended : skip tail = []) :
    Lexes (spelling ++ '.' :: tail) [kind, .punct .dot, .eof] ↔ SplitsOff spelling kind := by
  obtain ⟨whole, spoilt⟩ := spells.scanOne? space
  obtain ⟨c, cs, rfl, starts⟩ := spells.starts
  constructor
  · intro lexes
    -- The first token alone tells: a term that is spoilt is not read as one of its kind.
    obtain ⟨first, after, later, scanned, same⟩ := lexes.uncons starts
    obtain ⟨rfl, -⟩ := List.cons.inj same
    by_contra split
    exact spoilt split after scanned
  · intro split
    exact .cons starts (whole split) (.cons (by decide) (scanOne?_dot space) (.done ended))

end Token

open Token

/-- The final dot of a statement is split off the term before it, unless that is a blank node label, which is then
refused, or a prefixed name with two bare dots in a row. -/
theorem final_dot_iff {w : String} {kind : Kind} (spells : Spells w.toList kind) :
    (tokenize (w ++ ".") = .ok [⟨kind, 0, w.utf8ByteSize⟩, ⟨.punct .dot, w.utf8ByteSize, w.utf8ByteSize + 1⟩,
        ⟨.eof, w.utf8ByteSize + 1, w.utf8ByteSize + 1⟩] ↔ SplitsOff w.toList kind) ∧
      ((∃ tokens, tokenize (w ++ ".\n") = .ok tokens ∧ tokens.map Token.kind = [kind, .punct .dot, .eof]) ↔
        SplitsOff w.toList kind) ∧
      (∀ label, kind = .blank label →
        tokenize (w ++ ".") = .error (.lex (lexError (w ++ ".").toList 0 (w ++ ".").toList))) := by
  have size : w.utf8ByteSize = Text.byteSize w.toList := by
    rw [← Text.utf8ByteSize_ofList, String.ofList_toList]
  have dotted : (w ++ ".").toList = w.toList ++ ['.'] := by simp
  have lined : (w ++ ".\n").toList = w.toList ++ '.' :: ['\n'] := by simp
  refine ⟨⟨fun ran => ?_, fun split => ?_⟩, ?_, ?_⟩
  · have lexes := exists_tokenize_iff.mp ⟨_, ran, rfl⟩
    rw [dotted] at lexes
    exact (spells.lexes_iff (by simp) rfl).mp lexes
  · have whole : scanOne? (w.toList ++ ['.']) = some (kind, ['.']) := (spells.scanOne? (by simp)).1 split
    obtain ⟨c, cs, same, starts⟩ := spells.starts
    have front : Text.byteSize (c :: cs ++ ['.']) - Text.byteSize ['.'] = Text.byteSize (c :: cs) := by
      rw [Text.byteSize_append, Nat.add_sub_cancel]
    rw [size, tokenize, dotted]
    rw [same] at whole ⊢
    rw [List.cons_append] at whole front ⊢
    rw [scanFrom_cons starts, whole]
    simp only [front, Nat.zero_add, scanFrom_dot]
    rfl
  · rw [exists_tokenize_iff, lined]
    exact spells.lexes_iff (by simp [isSpace]) rfl
  · rintro label rfl
    obtain ⟨c, cs, same, starts⟩ := spells.starts
    have refused : scanOne? (w.toList ++ ['.']) = none := spells.scanOne?_blank (by simp)
    rw [tokenize, dotted]
    rw [same, List.cons_append] at refused ⊢
    rw [scanFrom_cons starts, refused]

/-- A dot behind an escaped one stands alone; two bare ones cut the name. -/
theorem final_dot_iff_escaped :
    tokenize "ex:a\\..b." = .ok [⟨.prefixed "ex" "a..b", 0, 8⟩, ⟨.punct .dot, 8, 9⟩, ⟨.eof, 9, 9⟩] ∧
      ¬ ∃ tokens, tokenize "ex:a..b.\n" = .ok tokens ∧
        tokens.map Token.kind = [.prefixed "ex" "a..b", .punct .dot, .eof] := by
  have last : LocalRun ('.' :: ['b']) ('.' :: ['b']) := .dot (by simp) (.piece (.plain (by decide)) .nil)
  have escaped : Spells "ex:a\\..b".toList (.prefixed "ex" "a..b") :=
    @Spells.prefixed ['e', 'x'] _ _ (by decide) (by decide)
      (.piece (.plain (by decide)) (.piece (.escape (by decide)) last))
  have bare : Spells "ex:a..b".toList (.prefixed "ex" "a..b") :=
    @Spells.prefixed ['e', 'x'] _ _ (by decide) (by decide) (.piece (.plain (by decide)) (.dot (by simp) last))
  exact ⟨(final_dot_iff escaped).1.mpr rfl, fun found => Bool.noConfusion ((final_dot_iff bare).2.1.mp found)⟩

end TemplateQuery
