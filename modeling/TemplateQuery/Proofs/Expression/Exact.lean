import Mathlib.Logic.Basic
import TemplateQuery.Proofs.Expression.Grammar

/-! The reader of expressions and their grammar say the same. What the grammar spells is read, up to a token that cannot
go on with it, and so no tokens spell two expressions. -/

set_option autoImplicit false

namespace TemplateQuery

open Token Tokens

namespace Expression

variable {p : Prologue} {s t : Phrase}

/-! ## What may come after a phrase -/

def closers : List Kind := [.punct .rparen, .punct .comma, .keyword .asKw, .eof]

def relators : List Kind :=
  [.punct .eq, .punct .ne, .punct .lt, .punct .le, .punct .gt, .punct .ge, .keyword .inKw, .keyword .notKw]

/-- Tokens that can come after a phrase and cannot go on with it. -/
def Phrase.followers : Phrase → List Kind
  | .disjunction => closers
  | .conjunction => .punct .or :: closers
  | .relation => .punct .and :: .punct .or :: closers
  | .sum => relators ++ .punct .and :: .punct .or :: closers
  | .product => .punct .plus :: .punct .minus :: (relators ++ .punct .and :: .punct .or :: closers)
  | .unary | .primary =>
    .punct .star :: .punct .slash :: .punct .plus :: .punct .minus ::
      (relators ++ .punct .and :: .punct .or :: closers)

theorem Phrase.followers_subset (next : s.tighter? = some t) : s.followers ⊆ t.followers := by
  cases s <;> cases next <;> decide

theorem Joins.follows {kind : Kind} {op : BinaryOperator} (joins : Joins s kind op t) : kind ∈ t.followers := by
  cases joins <;> decide

theorem operator?_of_follower (level : Level) : ∀ kind ∈ level.phrase.followers, level.operator? kind = none := by
  cases level <;> decide

theorem comparison?_of_follower :
    ∀ kind ∈ Phrase.relation.followers, comparison? kind = none ∧ kind ≠ .keyword .inKw ∧ kind ≠ .keyword .notKw := by
  decide

theorem mark_follows (op : Comparison) : Kind.punct op.mark ∈ Phrase.sum.followers := by
  cases op <;> decide

theorem comparison?_mark (op : Comparison) : comparison? (.punct op.mark) = some op := by
  cases op <;> rfl

theorem unaryOperator?_mark (op : UnaryOperator) : unaryOperator? (.punct op.mark) = some op := by
  cases op <;> rfl

/-! ## What a phrase starts with -/

theorem Derives.opens {s : Phrase} {w : List Kind} {e : Expression} (derives : Derives p s w e) :
    ∃ kind later, w = kind :: later ∧ kind ≠ .punct .rparen := by
  match derives with
  | .tighter _ inner => exact inner.opens
  | .chain _ first _ | .comparison _ first _ | .isIn first _ | .notIn first _ =>
    obtain ⟨kind, later, rfl, other⟩ := first.opens
    exact ⟨kind, _, rfl, other⟩
  | .unary op _ => exact ⟨_, _, rfl, by cases op <;> simp [UnaryOperator.mark]⟩
  | .parens _ | .var _ | .existsGroup | .notExistsGroup | .call _ _ => exact ⟨_, _, rfl, by simp⟩
  | .cast denotes _ _ => exact ⟨_, _, rfl, by cases denotes <;> simp⟩
  | .constant denotes =>
    cases denotes with
    | iri denotes => exact ⟨_, _, rfl, by cases denotes <;> simp⟩
    | _ => exact ⟨_, _, rfl, by simp⟩

theorem DerivesItems.opens {w : List Kind} {items : List Expression} (derives : DerivesItems p w items) :
    ∃ kind later, w = kind :: later ∧ kind ≠ .punct .rparen := by
  cases derives with
  | last inner => exact inner.opens
  | cons first _ =>
    obtain ⟨kind, later, rfl, other⟩ := first.opens
    exact ⟨kind, _, rfl, other⟩

theorem Derives.unsigned {w : List Kind} {e : Expression} (derives : Derives p .primary w e) :
    ∃ kind later, w = kind :: later ∧ unaryOperator? kind = none := by
  cases derives with
  | tighter next _ => cases next
  | chain joins _ _ => cases joins
  | parens | var | existsGroup | notExistsGroup | call => exact ⟨_, _, rfl, rfl⟩
  | cast denotes => exact ⟨_, _, rfl, by cases denotes <;> rfl⟩
  | constant denotes =>
    cases denotes with
    | iri denotes => exact ⟨_, _, rfl, by cases denotes <;> rfl⟩
    | _ => exact ⟨_, _, rfl, rfl⟩

/-! ## Reading what the grammar spells -/

/-- Calls that nest in the reader of a phrase before a token is passed. -/
def Phrase.height : Phrase → Nat
  | .disjunction => 7
  | .conjunction => 6
  | .relation => 5
  | .sum => 4
  | .product => 3
  | .unary => 2
  | .primary => 1

theorem Phrase.height_tighter (next : s.tighter? = some t) : s.height = t.height + 1 := by
  cases s <;> cases next <;> rfl

def Accepts (p : Prologue) (s : Phrase) (w : List Kind) (e : Expression) : Prop :=
  ∀ used rest fuel, used.map Token.kind = w → Tokens.kind rest ∈ s.followers → 10 * w.length + s.height ≤ fuel →
    readPhrase p fuel s (used ++ rest) = .ok (e, rest)

/-- The tokens are read as the first operand of a chain, or as its first links. A link takes one call. -/
def Leads (p : Prologue) (level : Level) (w : List Kind) (e : Expression) : Prop :=
  ∀ used rest fuel, used.map Token.kind = w → Tokens.kind rest ∈ level.operand.followers →
    10 * w.length + level.phrase.height ≤ fuel →
    ∃ left, fuel ≤ left + w.length ∧ readLevel p fuel level (used ++ rest) = readChain p left level e rest

def AcceptsList (p : Prologue) (w : List Kind) (items : List Expression) : Prop :=
  ∀ used rest fuel, used.map Token.kind = w → 10 * w.length ≤ fuel →
    readArguments p fuel (used ++ rest) = .ok (items, rest)

def AcceptsItems (p : Prologue) (w : List Kind) (items : List Expression) : Prop :=
  ∀ used close rest fuel, used.map Token.kind = w → close.kind = .punct .rparen → 10 * w.length + 8 ≤ fuel →
    readItems p fuel (used ++ close :: rest) = .ok (items, rest)

structure Complete (p : Prologue) (s : Phrase) (w : List Kind) (e : Expression) : Prop where
  accepts : Accepts p s w e
  leads : ∀ level : Level, level.phrase = s → level ≠ .relation → Leads p level w e

section Steps

variable {v w : List Kind} {e left right : Expression} {items : List Expression}

theorem exists_cut {used : Tokens} {kind : Kind} (same : used.map Token.kind = v ++ kind :: w) :
    ∃ front t back, used = front ++ t :: back ∧ front.map Token.kind = v ∧ t.kind = kind ∧ back.map Token.kind = w := by
  obtain ⟨front, later, rfl, before, after⟩ := List.map_eq_append_iff.mp same
  obtain ⟨t, back, rfl, here, after⟩ := List.map_eq_cons_iff.mp after
  exact ⟨front, t, back, rfl, before, here, after⟩

theorem kind_cons (t : Token) (ts : Tokens) : Tokens.kind (t :: ts) = t.kind := rfl

theorem advance_cons {t : Token} (inner : t.kind ≠ .eof) (ts : Tokens) : Tokens.advance (t :: ts) = ts := if_neg inner

theorem accept?_cons {t : Token} {kind : Kind} (found : t.kind = kind) (inner : kind ≠ .eof) (ts : Tokens) :
    Tokens.accept? (t :: ts) kind = some ts := by
  rw [accept?, if_pos (by exact found), advance_cons (found ▸ inner)]

theorem expect_cons {t : Token} {kind : Kind} (found : t.kind = kind) (inner : kind ≠ .eof) (what : String)
    (ts : Tokens) : Tokens.expect (t :: ts) kind what = .ok ts := by
  rw [Tokens.expect, accept?_cons found inner]

theorem accept?_of_ne {ts : Tokens} {kind : Kind} (other : ts.kind ≠ kind) : ts.accept? kind = none := if_neg other

theorem Leads.accepts {level : Level} (leads : Leads p level w e) (nonempty : w ≠ []) :
    Accepts p level.phrase w e := by
  intro used rest fuel same follows enough
  have positive := List.length_pos_iff.mpr nonempty
  obtain ⟨left, most, read⟩ := leads used rest fuel same (Phrase.followers_subset level.tighter?_phrase follows) enough
  obtain ⟨left, rfl⟩ : ∃ n, left = n + 1 := ⟨left - 1, by omega⟩
  rw [readPhrase_phrase, read, readChain, operator?_of_follower level _ follows]

theorem Accepts.leads {level : Level} (groups : level ≠ .relation) (accepts : Accepts p level.operand w e)
    (nonempty : w ≠ []) : Leads p level w e := by
  intro used rest fuel same follows enough
  have positive := List.length_pos_iff.mpr nonempty
  have height := Phrase.height_tighter level.tighter?_phrase
  obtain ⟨fuel, rfl⟩ : ∃ n, fuel = n + 1 := ⟨fuel - 1, by omega⟩
  refine ⟨fuel, by omega, ?_⟩
  rw [readLevel_succ groups, accepts used rest fuel same follows (by omega)]
  rfl

theorem Leads.chain {level : Level} {kind : Kind} {op : BinaryOperator}
    (joins : Joins level.phrase kind op level.operand) (first : Leads p level v left)
    (second : Accepts p level.operand w right) : Leads p level (v ++ kind :: w) (.binary op left right) := by
  intro used rest fuel same follows enough
  obtain ⟨front, t, back, rfl, rfl, rfl, rfl⟩ := exists_cut same
  have height := Phrase.height_tighter level.tighter?_phrase
  simp only [List.length_append, List.length_cons] at enough ⊢
  obtain ⟨more, most, read⟩ := first front (t :: back ++ rest) fuel rfl joins.follows (by omega)
  obtain ⟨more, rfl⟩ : ∃ n, more = n + 1 := ⟨more - 1, by omega⟩
  have found : level.operator? (Tokens.kind (t :: back ++ rest)) = some op := Level.joins_iff.mpr joins
  refine ⟨more, by omega, ?_⟩
  rw [List.append_assoc, read, readChain_succ found, List.cons_append, advance_cons joins.inner,
    second back rest more rfl follows (by omega)]
  rfl

theorem Accepts.relation (accepts : Accepts p .sum w e) : Accepts p .relation w e := by
  intro used rest fuel same follows enough
  obtain ⟨fuel, rfl⟩ : ∃ n, fuel = n + 2 := ⟨fuel - 2, by simp only [Phrase.height] at enough; omega⟩
  obtain ⟨plain, noIn, noNot⟩ := comparison?_of_follower _ follows
  have first := accepts used rest (fuel + 1) same (Phrase.followers_subset rfl follows)
    (by simp only [Phrase.height] at enough ⊢; omega)
  change (readPhrase p (fuel + 1) .sum (used ++ rest) >>= _) = _
  rw [first]
  dsimp only [bind, Except.bind]
  rw [readRelation, plain]
  simp only [noIn, noNot, false_and, if_false]

theorem Accepts.relation_of {kind : Kind} (first : Accepts p .sum v left)
    (follows : kind ∈ Phrase.sum.followers)
    (second : ∀ t back rest fuel, t.kind = kind → back.map Token.kind = w →
      Tokens.kind rest ∈ Phrase.relation.followers → 10 * w.length + 10 ≤ fuel →
      readRelation p fuel left (t :: (back ++ rest)) = .ok (e, rest)) :
    Accepts p .relation (v ++ kind :: w) e := by
  intro used rest fuel same later enough
  obtain ⟨front, t, back, rfl, before, here, after⟩ := exists_cut same
  simp only [List.length_append, List.length_cons, Phrase.height] at enough
  obtain ⟨fuel, rfl⟩ : ∃ n, fuel = n + 1 := ⟨fuel - 1, by omega⟩
  have read := first front (t :: (back ++ rest)) fuel before (by rw [kind_cons, here]; exact follows)
    (by simp only [Phrase.height]; omega)
  change (readPhrase p fuel .sum (front ++ t :: back ++ rest) >>= _) = _
  rw [List.append_assoc, List.cons_append, read]
  exact second t back rest fuel here after later (by omega)

theorem Accepts.comparison (op : Comparison) (first : Accepts p .sum v left) (second : Accepts p .sum w right) :
    Accepts p .relation (v ++ Kind.punct op.mark :: w) (.binary (.compare op) left right) := by
  refine first.relation_of (mark_follows op) fun t back rest fuel here same follows enough => ?_
  obtain ⟨fuel, rfl⟩ : ∃ n, fuel = n + 1 := ⟨fuel - 1, by omega⟩
  have read := second back rest fuel same (Phrase.followers_subset rfl follows) (by simp only [Phrase.height]; omega)
  have found : comparison? (Tokens.kind (t :: (back ++ rest))) = some op := by
    rw [kind_cons, here, comparison?_mark]
  rw [readRelation, found, advance_cons (by simp [here])]
  change (readPhrase p fuel .sum (back ++ rest) >>= _) = _
  rw [read]
  rfl

theorem Accepts.isIn (first : Accepts p .sum v left) (list : AcceptsList p w items) :
    Accepts p .relation (v ++ Kind.keyword .inKw :: w) (.inList left items false) := by
  refine first.relation_of (by decide) fun t back rest fuel here same follows enough => ?_
  obtain ⟨fuel, rfl⟩ : ∃ n, fuel = n + 1 := ⟨fuel - 1, by omega⟩
  rw [readRelation, kind_cons, here, advance_cons (by simp [here]), list back rest fuel same (by omega)]
  rfl

theorem Accepts.notIn (first : Accepts p .sum v left) (list : AcceptsList p w items) :
    Accepts p .relation (v ++ Kind.keyword .notKw :: .keyword .inKw :: w) (.inList left items true) := by
  refine first.relation_of (by decide) fun t back rest fuel here same follows enough => ?_
  obtain ⟨fuel, rfl⟩ : ∃ n, fuel = n + 1 := ⟨fuel - 1, by omega⟩
  obtain ⟨t', back, rfl, here', same⟩ := List.map_eq_cons_iff.mp same
  have second : Tokens.kindAt (t :: (t' :: back ++ rest)) 1 = .keyword .inKw := here'
  simp only [List.length_cons] at enough
  rw [readRelation, kind_cons, here, second, advance_cons (by simp [here]), List.cons_append,
    advance_cons (by simp [here']), list back rest fuel same (by omega)]
  rfl

theorem Accepts.unary (op : UnaryOperator) (inner : Accepts p .unary w e) :
    Accepts p .unary (.punct op.mark :: w) (.unary op e) := by
  intro used rest fuel same follows enough
  obtain ⟨t, back, rfl, here, same⟩ := List.map_eq_cons_iff.mp same
  simp only [List.length_cons, Phrase.height] at enough
  obtain ⟨fuel, rfl⟩ : ∃ n, fuel = n + 1 := ⟨fuel - 1, by omega⟩
  have read := inner back rest fuel same follows (by simp only [Phrase.height]; omega)
  have found : unaryOperator? (Tokens.kind (t :: (back ++ rest))) = some op := by
    rw [kind_cons, here, unaryOperator?_mark]
  change readUnary p (fuel + 1) (t :: (back ++ rest)) = _
  rw [readUnary, found, advance_cons (by simp [here])]
  change (readPhrase p fuel .unary (back ++ rest) >>= _) = _
  rw [read]
  rfl

theorem Accepts.unsigned (inner : Accepts p .primary w e)
    (unsigned : ∃ kind later, w = kind :: later ∧ unaryOperator? kind = none) : Accepts p .unary w e := by
  intro used rest fuel same follows enough
  obtain ⟨kind, later, rfl, unsigned⟩ := unsigned
  simp only [Phrase.height] at enough
  obtain ⟨fuel, rfl⟩ : ∃ n, fuel = n + 1 := ⟨fuel - 1, by omega⟩
  have read := inner used rest fuel same follows (by simp only [Phrase.height]; omega)
  obtain ⟨t, back, rfl, here, same⟩ := List.map_eq_cons_iff.mp same
  have found : unaryOperator? (Tokens.kind (t :: back ++ rest)) = none := by
    rw [List.cons_append, kind_cons, here, unsigned]
  change readUnary p (fuel + 1) (t :: back ++ rest) = _
  rw [readUnary, found]
  exact read

theorem AcceptsItems.last (inner : Accepts p .disjunction w e) : AcceptsItems p w [e] := by
  intro used close rest fuel same closes enough
  obtain ⟨fuel, rfl⟩ : ∃ n, fuel = n + 1 := ⟨fuel - 1, by omega⟩
  have read := inner used (close :: rest) fuel same (by rw [kind_cons, closes]; decide)
    (by simp only [Phrase.height]; omega)
  rw [readItems]
  change (readPhrase p fuel .disjunction (used ++ close :: rest) >>= _) = _
  rw [read]
  dsimp only [bind, Except.bind]
  rw [accept?_of_ne (by rw [kind_cons, closes]; decide)]
  dsimp only
  rw [expect_cons closes (by simp)]

theorem AcceptsItems.cons (first : Accepts p .disjunction v e) (rest : AcceptsItems p w items) :
    AcceptsItems p (v ++ Kind.punct .comma :: w) (e :: items) := by
  intro used close later fuel same closes enough
  obtain ⟨front, t, back, rfl, before, here, after⟩ := exists_cut same
  simp only [List.length_append, List.length_cons] at enough
  obtain ⟨fuel, rfl⟩ : ∃ n, fuel = n + 1 := ⟨fuel - 1, by omega⟩
  have read := first front (t :: (back ++ close :: later)) fuel before (by rw [kind_cons, here]; decide)
    (by simp only [Phrase.height]; omega)
  rw [readItems, List.append_assoc, List.cons_append]
  change (readPhrase p fuel .disjunction (front ++ t :: (back ++ close :: later)) >>= _) = _
  rw [read]
  dsimp only [bind, Except.bind]
  rw [accept?_cons here (by simp)]
  dsimp only
  rw [rest back close later fuel after closes (by omega)]

theorem AcceptsList.empty : AcceptsList p [.punct .lparen, .punct .rparen] [] := by
  intro used rest fuel same enough
  obtain ⟨t, back, rfl, here, same⟩ := List.map_eq_cons_iff.mp same
  obtain ⟨t', back, rfl, here', same⟩ := List.map_eq_cons_iff.mp same
  obtain rfl := List.map_eq_nil_iff.mp same
  obtain ⟨fuel, rfl⟩ : ∃ n, fuel = n + 1 := ⟨fuel - 1, by simp at enough; omega⟩
  simp only [List.cons_append, List.nil_append]
  rw [readArguments, expect_cons here (by simp)]
  dsimp only [bind, Except.bind]
  rw [accept?_cons here' (by simp)]

theorem AcceptsList.parens (inner : AcceptsItems p w items)
    (opens : ∃ kind later, w = kind :: later ∧ kind ≠ .punct .rparen) :
    AcceptsList p (.punct .lparen :: (w ++ [Kind.punct .rparen])) items := by
  intro used rest fuel same enough
  obtain ⟨t, back, rfl, here, same⟩ := List.map_eq_cons_iff.mp same
  obtain ⟨back, close, last, rfl, inside, closes, after⟩ := exists_cut same
  obtain rfl := List.map_eq_nil_iff.mp after
  simp only [List.length_append, List.length_cons] at enough
  obtain ⟨fuel, rfl⟩ : ∃ n, fuel = n + 1 := ⟨fuel - 1, by omega⟩
  have read := inner back close rest fuel inside closes (by omega)
  obtain ⟨kind, later, rfl, other⟩ := opens
  obtain ⟨t', back, rfl, here', -⟩ := List.map_eq_cons_iff.mp inside
  simp only [List.cons_append, List.append_assoc, List.nil_append] at read ⊢
  rw [readArguments, expect_cons here (by simp)]
  dsimp only [bind, Except.bind]
  rw [accept?_of_ne (by rw [kind_cons, here']; exact other)]
  exact read

theorem Accepts.primary_of {kind : Kind}
    (reads : ∀ t back rest fuel, t.kind = kind → back.map Token.kind = w → Tokens.kind rest ∈ Phrase.primary.followers →
      10 * w.length + 10 ≤ fuel → readPrimary p (fuel + 1) (t :: (back ++ rest)) = .ok (e, rest)) :
    Accepts p .primary (kind :: w) e := by
  intro used rest fuel same follows enough
  obtain ⟨t, back, rfl, here, after⟩ := List.map_eq_cons_iff.mp same
  simp only [List.length_cons, Phrase.height] at enough
  obtain ⟨fuel, rfl⟩ : ∃ n, fuel = n + 1 := ⟨fuel - 1, by omega⟩
  exact reads t back rest fuel here after follows (by omega)

theorem Accepts.parens (inner : Accepts p .disjunction w e) :
    Accepts p .primary (.punct .lparen :: (w ++ [Kind.punct .rparen])) e := by
  refine .primary_of fun t back rest fuel here same follows enough => ?_
  obtain ⟨back, close, last, rfl, inside, closes, after⟩ := exists_cut same
  obtain rfl := List.map_eq_nil_iff.mp after
  have read := inner back (close :: rest) fuel inside (by rw [kind_cons, closes]; decide)
    (by simp only [List.length_append, Phrase.height] at enough ⊢; omega)
  rw [readPrimary, kind_cons, here, advance_cons (by simp [here]), List.append_assoc]
  change (readPhrase p fuel .disjunction (back ++ close :: rest) >>= _) = _
  rw [read]
  change (Tokens.expect (close :: rest) (.punct .rparen) _ >>= _) = _
  rw [expect_cons closes (by simp)]
  rfl

theorem Accepts.var (name : String) : Accepts p .primary [.var name] (.var name) := by
  refine .primary_of fun t back rest fuel here same follows enough => ?_
  obtain rfl := List.map_eq_nil_iff.mp same
  rw [readPrimary, kind_cons, here, advance_cons (by simp [here])]
  rfl

theorem readEmptyGroup_append {ts : Tokens} (same : ts.map Token.kind = [.punct .lbrace, .punct .rbrace])
    (rest : Tokens) : readEmptyGroup (ts ++ rest) = .ok rest := by
  obtain ⟨t, back, rfl, here, same⟩ := List.map_eq_cons_iff.mp same
  obtain ⟨t', back, rfl, here', same⟩ := List.map_eq_cons_iff.mp same
  obtain rfl := List.map_eq_nil_iff.mp same
  simp only [List.cons_append, List.nil_append]
  rw [readEmptyGroup, expect_cons here (by simp)]
  dsimp only [bind, Except.bind]
  rw [accept?_cons here' (by simp)]

theorem Accepts.existsGroup :
    Accepts p .primary [.keyword .existsKw, .punct .lbrace, .punct .rbrace] (.existsGroup false) := by
  refine .primary_of fun t back rest fuel here same follows enough => ?_
  rw [readPrimary, kind_cons, here, advance_cons (by simp [here]), readEmptyGroup_append same]
  rfl

theorem Accepts.notExistsGroup :
    Accepts p .primary [.keyword .notKw, .keyword .existsKw, .punct .lbrace, .punct .rbrace] (.existsGroup true) := by
  refine .primary_of fun t back rest fuel here same follows enough => ?_
  obtain ⟨t', back, rfl, here', same⟩ := List.map_eq_cons_iff.mp same
  have second : Tokens.kindAt (t :: (t' :: back ++ rest)) 1 = .keyword .existsKw := here'
  rw [readPrimary, kind_cons, here, second, advance_cons (by simp [here]), List.cons_append,
    advance_cons (by simp [here']), readEmptyGroup_append same]
  rfl

theorem Accepts.call {word : String} {f : Function} (known : Function.ofWord? word.toList = some f)
    (list : AcceptsList p w items) : Accepts p .primary (.name word :: w) (.call f items) := by
  refine .primary_of fun t back rest fuel here same follows enough => ?_
  rw [readPrimary, kind_cons, here]
  dsimp only
  rw [known, advance_cons (by simp [here]), list back rest fuel same (by omega)]
  rfl

theorem readIri_cons {t : Token} {iri : String} (denotes : DenotesIri p t.kind iri) (ts : Tokens) :
    Term.readIri p (t :: ts) = .ok (iri, ts) := by
  have inner : t.kind ≠ .eof := by
    intro ended
    rw [ended] at denotes
    cases denotes
  unfold Term.readIri
  rw [kind_cons, advance_cons inner]
  generalize t.kind = kind at denotes
  cases denotes with
  | iri text => rfl
  | prefixed localPart declared => simp [Prologue.expand, declared, Except.map]
  | nsLabel declared => simp [Prologue.expand, declared, Except.map]

theorem readPrimary_iri {t : Token} {iri : String} (denotes : DenotesIri p t.kind iri) (fuel : Nat) (ts : Tokens) :
    readPrimary p (fuel + 1) (t :: ts) =
      if ts.kind = .punct .lparen then readCast p fuel (t :: ts) else readConstant p (t :: ts) := by
  rw [readPrimary, kind_cons]
  generalize t.kind = kind at denotes
  cases denotes <;> exact if_congr (and_iff_right rfl) rfl rfl

theorem Accepts.cast {kind : Kind} {iri : String} (denotes : DenotesIri p kind iri) (castable : iri ∈ constructors)
    (list : AcceptsList p w [e]) (opens : ∃ later, w = .punct .lparen :: later) :
    Accepts p .primary (kind :: w) (.cast iri e) := by
  refine .primary_of fun t back rest fuel here same follows enough => ?_
  obtain ⟨fuel, rfl⟩ : ∃ n, fuel = n + 1 := ⟨fuel - 1, by omega⟩
  subst here
  have second : Tokens.kind (back ++ rest) = .punct .lparen := by
    obtain ⟨later, rfl⟩ := opens
    obtain ⟨t', back, rfl, here', -⟩ := List.map_eq_cons_iff.mp same
    exact here'
  rw [readPrimary_iri denotes, if_pos second, readCast, readIri_cons denotes]
  change (if !isCastable iri then _ else readArguments p fuel (back ++ rest) >>= _) = _
  rw [isCastable_iff.mpr castable, list back rest fuel same (by omega)]
  rfl

theorem not_tag_of_follower {kind : Kind} (follows : kind ∈ Phrase.primary.followers) :
    kind ≠ .punct .lparen ∧ kind ≠ .punct .doubleCaret ∧ ∀ tag, kind ≠ .langTag tag := by
  refine ⟨?_, ?_, ?_⟩ <;> intros <;> rintro rfl <;> simp [Phrase.followers, relators, closers] at follows

theorem readTag_plain {ts : Tokens} (follows : ts.kind ∈ Phrase.primary.followers) (text : String) :
    Term.readTag p text ts = .ok (.plain text, ts) := by
  obtain ⟨-, noCaret, noTag⟩ := not_tag_of_follower follows
  unfold Term.readTag
  split
  · next tag kind => exact absurd kind (noTag tag)
  · next kind => exact absurd kind noCaret
  · rfl

theorem readConstant_of {t : Term} {rest ts : Tokens} (found : Term.readConstant? p ts = .ok (some (t, rest))) :
    readConstant p ts = .ok (.term t, rest) := by
  rw [readConstant, found]
  rfl

theorem readConstant?_string {t : Token} {text : String} (here : t.kind = .string text) (ts : Tokens) :
    Term.readConstant? p (t :: ts) = (Term.readTag p text ts).map some := by
  rw [Term.readConstant?, kind_cons, here, advance_cons (by simp [here])]

theorem readConstant?_iri {t : Token} {iri : String} (denotes : DenotesIri p t.kind iri) (ts : Tokens) :
    Term.readConstant? p (t :: ts) = .ok (some (.iri iri, ts)) := by
  have read := readIri_cons denotes ts
  rw [Term.readConstant?, kind_cons]
  generalize t.kind = kind at denotes
  cases denotes <;> (dsimp only; rw [read]; rfl)

theorem Accepts.constant {t : Term} (denotes : DenotesTerm p w t) : Accepts p .primary w (.term t) := by
  cases denotes with
  | integer text | decimal text | double text | yes | no | blank =>
    refine .primary_of fun t back rest fuel here same follows enough => ?_
    obtain rfl := List.map_eq_nil_iff.mp same
    rw [readPrimary, kind_cons, here]
    refine readConstant_of ?_
    simp [Term.readConstant?, Term.readNumber?, kind_cons, here, advance_cons]
  | plain text =>
    refine .primary_of fun t back rest fuel here same follows enough => ?_
    obtain rfl := List.map_eq_nil_iff.mp same
    rw [readPrimary, kind_cons, here]
    refine readConstant_of ?_
    rw [readConstant?_string here, List.nil_append, readTag_plain follows]
    rfl
  | tagged text tag =>
    refine .primary_of fun t back rest fuel here same follows enough => ?_
    obtain ⟨t', back, rfl, here', same⟩ := List.map_eq_cons_iff.mp same
    obtain rfl := List.map_eq_nil_iff.mp same
    rw [readPrimary, kind_cons, here]
    refine readConstant_of ?_
    rw [readConstant?_string here, Term.readTag]
    simp [kind_cons, here', advance_cons, Except.map]
  | typed text denotes =>
    refine .primary_of fun t back rest fuel here same follows enough => ?_
    obtain ⟨t', back, rfl, here', same⟩ := List.map_eq_cons_iff.mp same
    obtain ⟨name, back, rfl, rfl, after⟩ := List.map_eq_cons_iff.mp same
    obtain rfl := List.map_eq_nil_iff.mp after
    rw [readPrimary, kind_cons, here]
    refine readConstant_of ?_
    rw [readConstant?_string here, Term.readTag]
    simp [kind_cons, here', advance_cons, readIri_cons denotes, Except.map]
  | iri denotes =>
    refine .primary_of fun t back rest fuel here same follows enough => ?_
    obtain rfl := List.map_eq_nil_iff.mp same
    subst here
    rw [List.nil_append, readPrimary_iri denotes, if_neg (not_tag_of_follower follows).1]
    exact readConstant_of (readConstant?_iri denotes rest)

/-! ## The grammar and the reader -/

theorem Joins.exists_level {kind : Kind} {op : BinaryOperator} (joins : Joins s kind op t) :
    ∃ level : Level, level ≠ .relation ∧ level.phrase = s ∧ level.operand = t := by
  cases joins
  case or => exact ⟨.disjunction, by simp, rfl, rfl⟩
  case and => exact ⟨.conjunction, by simp, rfl, rfl⟩
  case add | sub => exact ⟨.sum, by simp, rfl, rfl⟩
  case mul | div => exact ⟨.product, by simp, rfl, rfl⟩

theorem Phrase.exists_level (next : s.tighter? = some t) :
    (∃ level : Level, level ≠ .relation ∧ level.phrase = s ∧ level.operand = t) ∨
      s = .relation ∧ t = .sum ∨ s = .unary ∧ t = .primary := by
  cases s <;> cases next
  case disjunction => exact .inl ⟨.disjunction, by simp, rfl, rfl⟩
  case conjunction => exact .inl ⟨.conjunction, by simp, rfl, rfl⟩
  case sum => exact .inl ⟨.sum, by simp, rfl, rfl⟩
  case product => exact .inl ⟨.product, by simp, rfl, rfl⟩
  case relation => exact .inr (.inl ⟨rfl, rfl⟩)
  case unary => exact .inr (.inr ⟨rfl, rfl⟩)

theorem Level.phrase_inj {level other : Level} (same : other.phrase = level.phrase) : other = level := by
  cases other <;> cases level <;> cases same <;> rfl

theorem Complete.of_leads {level : Level} (leads : Leads p level w e) (nonempty : w ≠ []) :
    Complete p level.phrase w e :=
  ⟨leads.accepts nonempty, fun _ same _ => Level.phrase_inj same ▸ leads⟩

theorem Complete.relation (accepts : Accepts p .relation w e) : Complete p .relation w e :=
  ⟨accepts, fun _ same groups => absurd (Level.phrase_inj same) groups⟩

theorem Complete.unary (accepts : Accepts p .unary w e) : Complete p .unary w e :=
  ⟨accepts, fun level same _ => by cases level <;> cases same⟩

theorem Complete.primary (accepts : Accepts p .primary w e) : Complete p .primary w e :=
  ⟨accepts, fun level same _ => by cases level <;> cases same⟩

theorem Derives.ne_nil {s : Phrase} (derives : Derives p s w e) : w ≠ [] := by
  obtain ⟨kind, later, rfl, -⟩ := derives.opens
  simp

theorem Complete.tighter (next : s.tighter? = some t) (inner : Derives p t w e) (complete : Complete p t w e) :
    Complete p s w e := by
  obtain ⟨level, groups, rfl, rfl⟩ | ⟨rfl, rfl⟩ | ⟨rfl, rfl⟩ := Phrase.exists_level next
  · exact .of_leads (complete.accepts.leads groups inner.ne_nil) inner.ne_nil
  · exact .relation complete.accepts.relation
  · exact .unary (complete.accepts.unsigned inner.unsigned)

theorem Complete.chain {kind : Kind} {op : BinaryOperator} (joins : Joins s kind op t) (first : Complete p s v left)
    (second : Complete p t w right) : Complete p s (v ++ kind :: w) (.binary op left right) := by
  obtain ⟨level, groups, rfl, rfl⟩ := joins.exists_level
  exact .of_leads ((first.leads level rfl groups).chain joins second.accepts) (by simp)

end Steps

mutual

theorem Derives.complete {s : Phrase} {w : List Kind} {e : Expression} (derives : Derives p s w e) :
    Complete p s w e := by
  match derives with
  | .tighter next inner => exact .tighter next inner inner.complete
  | .chain joins first second => exact .chain joins first.complete second.complete
  | .comparison op first second => exact .relation (.comparison op first.complete.accepts second.complete.accepts)
  | .isIn first list => exact .relation (.isIn first.complete.accepts list.complete)
  | .notIn first list => exact .relation (.notIn first.complete.accepts list.complete)
  | .unary op inner => exact .unary (.unary op inner.complete.accepts)
  | .parens inner => exact .primary (.parens inner.complete.accepts)
  | .var name => exact .primary (.var name)
  | .existsGroup => exact .primary .existsGroup
  | .notExistsGroup => exact .primary .notExistsGroup
  | .call known list => exact .primary (.call known list.complete)
  | .cast denotes castable inner =>
    exact .primary (.cast denotes castable (.parens (.last inner.complete.accepts) inner.opens) ⟨_, rfl⟩)
  | .constant denotes => exact .primary (.constant denotes)

theorem DerivesList.complete {w : List Kind} {items : List Expression} (derives : DerivesList p w items) :
    AcceptsList p w items := by
  match derives with
  | .empty => exact .empty
  | .items inner => exact .parens inner.complete inner.opens

theorem DerivesItems.complete {w : List Kind} {items : List Expression} (derives : DerivesItems p w items) :
    AcceptsItems p w items := by
  match derives with
  | .last inner => exact .last inner.complete.accepts
  | .cons first rest => exact .cons first.complete.accepts rest.complete

end

theorem read_of_derives {used rest : Tokens} {e : Expression} (derives : Derives p .disjunction (used.map Token.kind) e)
    (closed : rest.kind ∈ closers) : read p (used ++ rest) = .ok (e, rest) := by
  refine derives.complete.accepts used rest _ rfl closed ?_
  simp only [enoughFuel, List.length_map, List.length_append, Phrase.height]
  omega

theorem Derives.unique {w : List Kind} {e e' : Expression} (derives : Derives p .disjunction w e)
    (derives' : Derives p .disjunction w e') : e = e' := by
  obtain ⟨used, rfl⟩ : ∃ used : Tokens, used.map Token.kind = w :=
    ⟨w.map fun kind => ⟨kind, 0, 0⟩, by rw [List.map_map]; exact List.map_id w⟩
  have ended : Tokens.kind [] ∈ closers := by decide
  have same := (read_of_derives derives ended).symm.trans (read_of_derives derives' ended)
  cases same
  rfl

/-- An expression is read exactly where the grammar spells one in front of a token that ends it. Operators bind as the
grammar's phrases are nested, and group to the left, but for a relation, which has two sides. -/
theorem read_exactly_spelt (p : Prologue) :
    (∀ ts e rest, read p ts = .ok (e, rest) →
      ∃ used, ts = used ++ rest ∧ Derives p .disjunction (used.map Token.kind) e) ∧
    (∀ used rest e, Derives p .disjunction (used.map Token.kind) e → Tokens.kind rest ∈ closers →
      read p (used ++ rest) = .ok (e, rest)) ∧
    ∀ w e e', Derives p .disjunction w e → Derives p .disjunction w e' → e = e' :=
  ⟨fun ts e rest => (sound p _).phrase .disjunction ts (by simp) e rest, fun _ _ _ => read_of_derives,
    fun _ _ _ => Derives.unique⟩

theorem read_exactly_spelt_differences :
    let ended : Tokens := [⟨.eof, 10, 10⟩]
    let ts : Tokens := [⟨.var "a", 0, 2⟩, ⟨.punct .minus, 2, 3⟩, ⟨.punct .minus, 3, 4⟩, ⟨.var "b", 4, 6⟩,
      ⟨.punct .minus, 6, 7⟩, ⟨.var "c", 8, 10⟩] ++ ended
    let e : Expression := .binary (.arithmetic .sub)
      (.binary (.arithmetic .sub) (.var "a") (.unary .neg (.var "b"))) (.var "c")
    read {} ts = .ok (e, ended) ∧
      ∃ used, ts = used ++ ended ∧ Derives {} .disjunction (used.map Token.kind) e ∧
        read {} (used ++ ended) = .ok (e, ended) ∧ ∀ e', Derives {} .disjunction (used.map Token.kind) e' → e = e' := by
  intro ended ts e
  have spelt := read_exactly_spelt {}
  have read : read {} ts = .ok (e, ended) := by rfl
  obtain ⟨used, cut, derives⟩ := spelt.1 ts e ended read
  exact ⟨read, used, cut, derives, spelt.2.1 used ended e derives (by decide), fun e' => spelt.2.2 _ e e' derives⟩

end Expression

end TemplateQuery
