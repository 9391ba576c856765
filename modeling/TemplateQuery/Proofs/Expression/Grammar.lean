import TemplateQuery.Proofs.Query.Inline

/-! The grammar of expressions, apart from any reader. Operators that group to the left have the looser phrase on their
left side and the tighter one on their right, so that a phrase can be built up in one way only. Whatever is read as an
expression is spelt so by the tokens that were read. -/

set_option autoImplicit false

namespace TemplateQuery

open Token Tokens Vocabulary

/-! ## Phrases -/

def Comparison.mark : Comparison → Punct
  | .eq => .eq
  | .ne => .ne
  | .lt => .lt
  | .le => .le
  | .gt => .gt
  | .ge => .ge

def UnaryOperator.mark : UnaryOperator → Punct
  | .not => .bang
  | .neg => .minus
  | .pos => .plus

namespace Expression

/-- Kinds of phrases, the loosest first. -/
inductive Phrase where
  | disjunction | conjunction | relation | sum | product | unary | primary
  deriving DecidableEq

def Phrase.tighter? : Phrase → Option Phrase
  | .disjunction => some .conjunction
  | .conjunction => some .relation
  | .relation => some .sum
  | .sum => some .product
  | .product => some .unary
  | .unary => some .primary
  | .primary => none

/-- The operators that group to the left: the phrase they make, which is also the one on their left side, their token,
and the phrase on their right side. -/
inductive Joins : Phrase → Kind → BinaryOperator → Phrase → Prop
  | or : Joins .disjunction (.punct .or) .or .conjunction
  | and : Joins .conjunction (.punct .and) .and .relation
  | add : Joins .sum (.punct .plus) (.arithmetic .add) .product
  | sub : Joins .sum (.punct .minus) (.arithmetic .sub) .product
  | mul : Joins .product (.punct .star) (.arithmetic .mul) .unary
  | div : Joins .product (.punct .slash) (.arithmetic .div) .unary

inductive DenotesIri (p : Prologue) : Kind → String → Prop
  | iri (text : String) : DenotesIri p (.iri text) (p.resolve text)
  | prefixed {label ns : String} (localPart : String) (declared : p.namespace? label = some ns) :
      DenotesIri p (.prefixed label localPart) (ns ++ localPart)
  | nsLabel {label ns : String} (declared : p.namespace? label = some ns) : DenotesIri p (.nsLabel label) ns

/-- The constants of expressions. Signs in front of numbers are operators. -/
inductive DenotesTerm (p : Prologue) : List Kind → Term → Prop
  | integer (text : String) : DenotesTerm p [.integer text] (.typed text xsdInteger)
  | decimal (text : String) : DenotesTerm p [.decimal text] (.typed text xsdDecimal)
  | double (text : String) : DenotesTerm p [.double text] (.typed text xsdDouble)
  | yes : DenotesTerm p [.keyword .trueKw] (.boolean true)
  | no : DenotesTerm p [.keyword .falseKw] (.boolean false)
  | blank (label : String) : DenotesTerm p [.blank label] (.blank label)
  | plain (text : String) : DenotesTerm p [.string text] (.plain text)
  | tagged (text tag : String) : DenotesTerm p [.string text, .langTag tag] (.literal text (.lang tag))
  | typed {kind : Kind} {datatype : String} (text : String) (denotes : DenotesIri p kind datatype) :
      DenotesTerm p [.string text, .punct .doubleCaret, kind] (.typed text datatype)
  | iri {kind : Kind} {iri : String} (denotes : DenotesIri p kind iri) : DenotesTerm p [kind] (.iri iri)

def constructors : List String := [xsdString, xsdInteger, xsdDecimal, xsdDouble, xsdFloat, xsdBoolean]

mutual

/-- The tokens that spell an expression as a phrase. -/
inductive Derives (p : Prologue) : Phrase → List Kind → Expression → Prop
  | tighter {s t : Phrase} {w : List Kind} {e : Expression} (next : s.tighter? = some t) (inner : Derives p t w e) :
      Derives p s w e
  | chain {s t : Phrase} {kind : Kind} {op : BinaryOperator} {v w : List Kind} {left right : Expression}
      (joins : Joins s kind op t) (first : Derives p s v left) (second : Derives p t w right) :
      Derives p s (v ++ kind :: w) (.binary op left right)
  | comparison {v w : List Kind} {left right : Expression} (op : Comparison) (first : Derives p .sum v left)
      (second : Derives p .sum w right) :
      Derives p .relation (v ++ .punct op.mark :: w) (.binary (.compare op) left right)
  | isIn {v w : List Kind} {left : Expression} {items : List Expression} (first : Derives p .sum v left)
      (list : DerivesList p w items) : Derives p .relation (v ++ .keyword .inKw :: w) (.inList left items false)
  | notIn {v w : List Kind} {left : Expression} {items : List Expression} (first : Derives p .sum v left)
      (list : DerivesList p w items) :
      Derives p .relation (v ++ .keyword .notKw :: .keyword .inKw :: w) (.inList left items true)
  | unary {w : List Kind} {operand : Expression} (op : UnaryOperator) (inner : Derives p .unary w operand) :
      Derives p .unary (.punct op.mark :: w) (.unary op operand)
  | parens {w : List Kind} {e : Expression} (inner : Derives p .disjunction w e) :
      Derives p .primary (.punct .lparen :: (w ++ [.punct .rparen])) e
  | var (name : String) : Derives p .primary [.var name] (.var name)
  | existsGroup : Derives p .primary [.keyword .existsKw, .punct .lbrace, .punct .rbrace] (.existsGroup false)
  | notExistsGroup :
      Derives p .primary [.keyword .notKw, .keyword .existsKw, .punct .lbrace, .punct .rbrace] (.existsGroup true)
  | call {word : String} {f : Function} {w : List Kind} {args : List Expression}
      (known : Function.ofWord? word.toList = some f) (list : DerivesList p w args) :
      Derives p .primary (.name word :: w) (.call f args)
  | cast {kind : Kind} {iri : String} {w : List Kind} {e : Expression} (denotes : DenotesIri p kind iri)
      (castable : iri ∈ constructors) (inner : Derives p .disjunction w e) :
      Derives p .primary (kind :: .punct .lparen :: (w ++ [.punct .rparen])) (.cast iri e)
  | constant {w : List Kind} {t : Term} (denotes : DenotesTerm p w t) : Derives p .primary w (.term t)

inductive DerivesList (p : Prologue) : List Kind → List Expression → Prop
  | empty : DerivesList p [.punct .lparen, .punct .rparen] []
  | items {w : List Kind} {items : List Expression} (inner : DerivesItems p w items) :
      DerivesList p (.punct .lparen :: (w ++ [.punct .rparen])) items

inductive DerivesItems (p : Prologue) : List Kind → List Expression → Prop
  | last {w : List Kind} {e : Expression} (inner : Derives p .disjunction w e) : DerivesItems p w [e]
  | cons {v w : List Kind} {e : Expression} {items : List Expression} (first : Derives p .disjunction v e)
      (rest : DerivesItems p w items) : DerivesItems p (v ++ .punct .comma :: w) (e :: items)

end

end Expression

/-! ## Reading what is spelt -/

theorem Tokens.kind_advance {ts : Tokens} (inner : ts.kind ≠ .eof) : ts.advance.kind = ts.kindAt 1 := by
  cases ts with
  | nil => exact absurd rfl inner
  | cons t ts =>
    have next : Tokens.advance (t :: ts) = ts := if_neg inner
    rw [next]
    rfl

/-- What is read off the front of the tokens is spelt by them, in the sense of `spells`. -/
def Reads {α : Type} (spells : List Kind → α → Prop) (ts : Tokens) (x : Except ReadError (α × Tokens)) : Prop :=
  ∀ a rest, x = .ok (a, rest) → ∃ used, ts = used ++ rest ∧ spells (used.map Token.kind) a

namespace Reads

variable {α β : Type} {spells : List Kind → α → Prop} {spells' : List Kind → β → Prop} {ts : Tokens}

theorem error (e : ReadError) : Reads spells ts (.error e) := by
  intro a rest same
  cases same

theorem ok {a : α} (spelt : spells [] a) : Reads spells ts (.ok (a, ts)) := by
  intro b rest same
  cases same
  exact ⟨[], rfl, spelt⟩

theorem bind {x : Except ReadError (α × Tokens)} {f : α × Tokens → Except ReadError (β × Tokens)}
    (first : Reads spells ts x)
    (later : ∀ a v middle, spells v a → Reads (fun w b => spells' (v ++ w) b) middle (f (a, middle))) :
    Reads spells' ts (x >>= f) := by
  intro b rest ran
  obtain ⟨⟨a, middle⟩, found, ran⟩ := ok_of_bind ran
  obtain ⟨front, rfl, spelt⟩ := first a middle found
  obtain ⟨back, rfl, spelt'⟩ := later a _ middle spelt b rest ran
  exact ⟨front ++ back, by rw [List.append_assoc], by rw [List.map_append]; exact spelt'⟩

theorem mono {x : Except ReadError (α × Tokens)} {other : List Kind → α → Prop} (reads : Reads spells ts x)
    (step : ∀ w a, spells w a → other w a) : Reads other ts x := by
  intro a rest ran
  obtain ⟨used, cut, spelt⟩ := reads a rest ran
  exact ⟨used, cut, step _ _ spelt⟩

theorem finish {x : Except ReadError (α × Tokens)} (reads : Reads spells ts x) (f : α → β)
    (step : ∀ w a, spells w a → spells' w (f a)) :
    Reads spells' ts (x >>= fun found => .ok (f found.1, found.2)) :=
  reads.bind fun a v _ spelt => ok (by rw [List.append_nil]; exact step v a spelt)

theorem map {x : Except ReadError (α × Tokens)} (reads : Reads spells ts x) (f : α → β)
    (step : ∀ w a, spells w a → spells' w (f a)) : Reads spells' ts (x.map fun (a, rest) => (f a, rest)) := by
  have built := reads.finish f step
  cases x <;> exact built

theorem token {x : Except ReadError (α × Tokens)} {kind : Kind} (found : ts.kind = kind) (inner : kind ≠ .eof)
    (later : Reads (fun w a => spells (kind :: w) a) ts.advance x) : Reads spells ts x := by
  intro a rest ran
  cases ts with
  | nil => exact absurd found.symm inner
  | cons t ts =>
    have first : t.kind = kind := found
    have next : Tokens.advance (t :: ts) = ts := if_neg (first ▸ inner)
    rw [next] at later
    obtain ⟨used, rfl, spelt⟩ := later a rest ran
    exact ⟨t :: used, rfl, by rw [List.map_cons, first]; exact spelt⟩

theorem expect {kind : Kind} {what : String} {f : Tokens → Except ReadError (α × Tokens)} (inner : kind ≠ .eof)
    (later : ∀ rest, Reads (fun w a => spells (kind :: w) a) rest (f rest)) :
    Reads spells ts (ts.expect kind what >>= f) := by
  by_cases found : ts.kind = kind
  · have passed : ts.expect kind what = .ok ts.advance := by simp [Tokens.expect, accept?, found]
    rw [passed]
    exact token found inner (later _)
  · have refused : ts.expect kind what = ts.fail (.expected what ts.kind) := by simp [Tokens.expect, accept?, found]
    rw [refused]
    exact error _

end Reads

namespace Expression

variable {p : Prologue} {ts : Tokens}

/-! ## Constants -/

def orFail (e : ReadError) : Option (Term × Tokens) → Except ReadError (Expression × Tokens)
  | some (t, rest) => .ok (.term t, rest)
  | none => .error e

theorem readConstant_eq (ts : Tokens) :
    readConstant p ts = Term.readConstant? p ts >>= orFail (.parse ts.offset (.expected "expression" ts.kind)) := by
  unfold readConstant
  cases Term.readConstant? p ts with
  | error e => rfl
  | ok found => cases found <;> rfl

theorem orFail_some (e : ReadError) (x : Except ReadError (Term × Tokens)) :
    (x.map some >>= orFail e) = x.map fun (t, rest) => (.term t, rest) := by
  cases x <;> rfl

theorem orFail_iri (e : ReadError) (x : Except ReadError (String × Tokens)) :
    (x.map (fun (i, rest) => some (Term.iri i, rest)) >>= orFail e) =
      x.map fun (i, rest) => (.term (.iri i), rest) := by
  cases x <;> rfl

theorem denotes_of_expand {label localPart iri : String} (found : p.expand label localPart = .ok iri) :
    ∃ ns, p.namespace? label = some ns ∧ iri = ns ++ localPart := by
  unfold Prologue.expand at found
  split at found
  · next ns declared => cases found; exact ⟨ns, declared, rfl⟩
  · cases found

theorem reads_iri (ts : Tokens) :
    Reads (fun w iri => ∃ kind, w = [kind] ∧ DenotesIri p kind iri) ts (Term.readIri p ts) := by
  unfold Term.readIri
  split
  · next text kind => exact .token kind (by simp) (.ok ⟨_, rfl, .iri text⟩)
  · next label localPart kind =>
    cases found : p.expand label localPart with
    | error e => exact .error e
    | ok iri =>
      obtain ⟨ns, declared, rfl⟩ := denotes_of_expand found
      exact .token kind (by simp) (.ok ⟨_, rfl, .prefixed localPart declared⟩)
  · next label kind =>
    cases found : p.expand label "" with
    | error e => exact .error e
    | ok iri =>
      obtain ⟨ns, declared, rfl⟩ := denotes_of_expand found
      rw [String.append_empty]
      exact .token kind (by simp) (.ok ⟨_, rfl, .nsLabel declared⟩)
  · exact .error _

theorem reads_tag (text : String) (ts : Tokens) :
    Reads (fun w t => DenotesTerm p (.string text :: w) t) ts (Term.readTag p text ts) := by
  unfold Term.readTag
  split
  · next tag kind => exact .token kind (by simp) (.ok (.tagged text tag))
  · next kind =>
    refine .token kind (by simp) ((reads_iri ts.advance).map _ ?_)
    rintro w iri ⟨kind, rfl, denotes⟩
    exact .typed text denotes
  · exact .ok (.plain text)

theorem reads_number (e : ReadError) (ts : Tokens) :
    Reads (Derives p .primary) ts (orFail e (Term.readNumber? "" ts)) := by
  unfold Term.readNumber?
  split
  · next text kind =>
    rw [String.empty_append]
    exact .token kind (by simp) (.ok (.constant (.integer text)))
  · next text kind =>
    rw [String.empty_append]
    exact .token kind (by simp) (.ok (.constant (.decimal text)))
  · next text kind =>
    rw [String.empty_append]
    exact .token kind (by simp) (.ok (.constant (.double text)))
  · exact .error e

theorem reads_iriConstant (ts : Tokens) :
    Reads (Derives p .primary) ts ((Term.readIri p ts).map fun (i, rest) => (.term (.iri i), rest)) := by
  refine (reads_iri ts).map (fun i => Expression.term (.iri i)) ?_
  rintro w iri ⟨kind, rfl, denotes⟩
  exact .constant (.iri denotes)

theorem reads_constant (unsigned : unaryOperator? ts.kind = none) :
    Reads (Derives p .primary) ts (readConstant p ts) := by
  rw [readConstant_eq]
  generalize ReadError.parse ts.offset _ = e
  unfold Term.readConstant?
  split
  · next kind => rw [kind] at unsigned; cases unsigned
  · next kind => rw [kind] at unsigned; cases unsigned
  · exact reads_number e ts
  · exact reads_number e ts
  · exact reads_number e ts
  · next kind => exact .token kind (by simp) (.ok (.constant .yes))
  · next kind => exact .token kind (by simp) (.ok (.constant .no))
  · next label kind => exact .token kind (by simp) (.ok (.constant (.blank label)))
  · next text kind =>
    rw [orFail_some]
    exact .token kind (by simp) ((reads_tag text ts.advance).map _ fun w t denotes => .constant denotes)
  · rw [orFail_iri]; exact reads_iriConstant ts
  · rw [orFail_iri]; exact reads_iriConstant ts
  · rw [orFail_iri]; exact reads_iriConstant ts
  · exact .error e

theorem reads_emptyGroup {spells : List Kind → Expression → Prop} {e : Expression}
    (spelt : spells [.punct .lbrace, .punct .rbrace] e) (ts : Tokens) :
    Reads spells ts (readEmptyGroup ts >>= fun rest => .ok (e, rest)) := by
  unfold readEmptyGroup
  simp only [bind_assoc]
  refine .expect (by simp) fun ts => ?_
  cases found : ts.accept? (.punct .rbrace) with
  | none => exact .error _
  | some rest =>
    obtain ⟨kind, rfl⟩ := accept?_eq_some_iff.mp found
    exact .token kind (by simp) (.ok spelt)

/-! ## Phrases -/

def Level.phrase : Level → Phrase
  | .disjunction => .disjunction
  | .conjunction => .conjunction
  | .relation => .relation
  | .sum => .sum
  | .product => .product

def Level.operand : Level → Phrase
  | .disjunction => .conjunction
  | .conjunction => .relation
  | .relation => .sum
  | .sum => .product
  | .product => .unary

theorem Level.tighter?_phrase (level : Level) : level.phrase.tighter? = some level.operand := by
  cases level <;> rfl

theorem Level.operand_ne (level : Level) : level.operand ≠ .primary := by
  cases level <;> simp [Level.operand]

theorem Level.joins_iff {level : Level} {kind : Kind} {op : BinaryOperator} :
    level.operator? kind = some op ↔ Joins level.phrase kind op level.operand := by
  constructor
  · intro found
    unfold Level.operator? at found
    split at found <;> cases found <;> constructor
  · intro joins
    cases level <;> cases joins <;> rfl

theorem Joins.inner {s t : Phrase} {kind : Kind} {op : BinaryOperator} (joins : Joins s kind op t) : kind ≠ .eof := by
  cases joins <;> simp

theorem eq_mark_of_comparison? {kind : Kind} {op : Comparison} (found : comparison? kind = some op) :
    kind = .punct op.mark := by
  unfold comparison? at found
  split at found <;> cases found <;> rfl

theorem eq_mark_of_unaryOperator? {kind : Kind} {op : UnaryOperator} (found : unaryOperator? kind = some op) :
    kind = .punct op.mark := by
  unfold unaryOperator? at found
  split at found <;> cases found <;> rfl

theorem isCastable_iff {iri : String} : isCastable iri = true ↔ iri ∈ constructors := by
  simp [isCastable, constructors, or_assoc]

def readPhrase (p : Prologue) (fuel : Nat) : Phrase → Tokens → Except ReadError (Expression × Tokens)
  | .disjunction => readLevel p fuel .disjunction
  | .conjunction => readLevel p fuel .conjunction
  | .relation => readLevel p fuel .relation
  | .sum => readLevel p fuel .sum
  | .product => readLevel p fuel .product
  | .unary => readUnary p fuel
  | .primary => readPrimary p fuel

theorem readPhrase_phrase (fuel : Nat) (level : Level) : readPhrase p fuel level.phrase = readLevel p fuel level := by
  cases level <;> rfl

theorem readLevel_succ {level : Level} (groups : level ≠ .relation) (fuel : Nat) (ts : Tokens) :
    readLevel p (fuel + 1) level ts =
      readPhrase p fuel level.operand ts >>= fun (left, ts) => readChain p fuel level left ts := by
  cases level with
  | relation => exact absurd rfl groups
  | disjunction | conjunction | sum | product => rfl

theorem readChain_succ {level : Level} {op : BinaryOperator} (found : level.operator? ts.kind = some op) (fuel : Nat)
    (left : Expression) :
    readChain p (fuel + 1) level left ts =
      readPhrase p fuel level.operand ts.advance >>= fun (right, ts) =>
        readChain p fuel level (.binary op left right) ts := by
  rw [readChain, found]
  cases level with
  | relation => cases found
  | disjunction | conjunction | sum | product => rfl

structure Sound (p : Prologue) (fuel : Nat) : Prop where
  phrase : ∀ s ts, s ≠ .primary → Reads (Derives p s) ts (readPhrase p fuel s ts)
  -- Where a sign comes first, the reader of primary phrases would take it for a part of a number.
  primary : ∀ ts, unaryOperator? ts.kind = none → Reads (Derives p .primary) ts (readPrimary p fuel ts)
  chain : ∀ level left v ts, Derives p level.phrase v left →
    Reads (fun w e => Derives p level.phrase (v ++ w) e) ts (readChain p fuel level left ts)
  relation : ∀ left v ts, Derives p .sum v left →
    Reads (fun w e => Derives p .relation (v ++ w) e) ts (readRelation p fuel left ts)
  cast : ∀ ts, Reads (Derives p .primary) ts (readCast p fuel ts)
  arguments : ∀ ts, Reads (DerivesList p) ts (readArguments p fuel ts)
  items : ∀ ts, Reads (fun w items => ∃ v, w = v ++ [.punct .rparen] ∧ DerivesItems p v items) ts
    (readItems p fuel ts)

namespace Sound

variable {fuel : Nat}

theorem level_succ (sound : Sound p fuel) (level : Level) (ts : Tokens) :
    Reads (Derives p level.phrase) ts (readLevel p (fuel + 1) level ts) := by
  by_cases single : level = .relation
  · subst single
    exact (sound.phrase .sum ts (by simp)).bind fun left v ts spelt => sound.relation left v ts spelt
  · rw [readLevel_succ single]
    exact (sound.phrase level.operand ts level.operand_ne).bind fun left v ts spelt =>
      sound.chain level left v ts (.tighter level.tighter?_phrase spelt)

theorem chain_succ (sound : Sound p fuel) (level : Level) (left : Expression) (v : List Kind) (ts : Tokens)
    (spelt : Derives p level.phrase v left) :
    Reads (fun w e => Derives p level.phrase (v ++ w) e) ts (readChain p (fuel + 1) level left ts) := by
  cases found : level.operator? ts.kind with
  | none =>
    rw [readChain, found]
    exact .ok (by rwa [List.append_nil])
  | some op =>
    rw [readChain_succ found]
    have joins := Level.joins_iff.mp found
    refine .token rfl joins.inner ((sound.phrase level.operand _ level.operand_ne).bind fun right w ts second => ?_)
    refine (sound.chain level _ _ ts (.chain joins spelt second)).mono fun u e spelt => ?_
    simpa using spelt

theorem relation_succ (sound : Sound p fuel) (left : Expression) (v : List Kind) (ts : Tokens)
    (spelt : Derives p .sum v left) :
    Reads (fun w e => Derives p .relation (v ++ w) e) ts (readRelation p (fuel + 1) left ts) := by
  rw [readRelation]
  cases found : comparison? ts.kind with
  | some op =>
    refine .token (eq_mark_of_comparison? found) (by simp) ?_
    exact (sound.phrase .sum ts.advance (by simp)).finish _ fun w right second => .comparison op spelt second
  | none =>
    dsimp only
    split
    · next isIn =>
      refine .token isIn (by simp) ?_
      exact (sound.arguments _).finish (fun items => Expression.inList left items false) fun w items list =>
        .isIn spelt list
    · split
      · next notIn =>
        obtain ⟨isNot, second⟩ := notIn
        have next : ts.advance.kind = .keyword .inKw := by rwa [kind_advance (by simp [isNot])]
        refine .token isNot (by simp) (.token next (by simp) ?_)
        exact (sound.arguments _).finish (fun items => Expression.inList left items true) fun w items list =>
          .notIn spelt list
      · exact .ok (by rw [List.append_nil]; exact .tighter rfl spelt)

theorem unary_succ (sound : Sound p fuel) (ts : Tokens) :
    Reads (Derives p .unary) ts (readUnary p (fuel + 1) ts) := by
  rw [readUnary]
  cases found : unaryOperator? ts.kind with
  | none => exact (sound.primary ts found).mono fun w e spelt => .tighter rfl spelt
  | some op =>
    refine .token (eq_mark_of_unaryOperator? found) (by simp) ?_
    exact (sound.phrase .unary ts.advance (by simp)).finish _ fun w operand spelt => .unary op spelt

theorem arguments_succ (sound : Sound p fuel) (ts : Tokens) :
    Reads (DerivesList p) ts (readArguments p (fuel + 1) ts) := by
  rw [readArguments]
  refine .expect (by simp) fun ts => ?_
  cases found : ts.accept? (.punct .rparen) with
  | some rest =>
    obtain ⟨kind, rfl⟩ := accept?_eq_some_iff.mp found
    exact .token kind (by simp) (.ok .empty)
  | none =>
    refine (sound.items ts).mono ?_
    rintro w items ⟨v, rfl, spelt⟩
    exact .items spelt

theorem items_succ (sound : Sound p fuel) (ts : Tokens) :
    Reads (fun w items => ∃ v, w = v ++ [Kind.punct .rparen] ∧ DerivesItems p v items) ts
      (readItems p (fuel + 1) ts) := by
  rw [readItems]
  refine (sound.phrase .disjunction ts (by simp)).bind fun first v ts spelt => ?_
  dsimp only
  cases found : ts.accept? (.punct .comma) with
  | some rest =>
    obtain ⟨kind, rfl⟩ := accept?_eq_some_iff.mp found
    refine .token kind (by simp) ((sound.items _).finish _ ?_)
    rintro w items ⟨u, rfl, later⟩
    exact ⟨v ++ Kind.punct .comma :: u, by simp, .cons spelt later⟩
  | none => exact .expect (by simp) fun ts => .ok ⟨v, rfl, .last spelt⟩

theorem cast_succ (sound : Sound p fuel) (ts : Tokens) :
    Reads (Derives p .primary) ts (readCast p (fuel + 1) ts) := by
  rw [readCast]
  refine (reads_iri ts).bind ?_
  rintro iri _ ts ⟨kind, rfl, denotes⟩
  dsimp only
  split
  · exact .error _
  · next castable =>
    have listed : iri ∈ constructors := isCastable_iff.mp (by simpa using castable)
    refine (sound.arguments ts).bind fun args w ts list => ?_
    dsimp only
    split
    · cases list with
      | items inner =>
        cases inner with
        | last inner => exact .ok (by simpa using Derives.cast denotes listed inner)
        | cons first rest => cases rest
    · exact .error _

theorem primary_succ (sound : Sound p fuel) (ts : Tokens) (unsigned : unaryOperator? ts.kind = none) :
    Reads (Derives p .primary) ts (readPrimary p (fuel + 1) ts) := by
  rw [readPrimary]
  split
  · next kind =>
    refine .token kind (by simp) ((sound.phrase .disjunction _ (by simp)).bind fun e w ts spelt => ?_)
    exact .expect (by simp) fun ts => .ok (.parens spelt)
  · next name kind => exact .token kind (by simp) (.ok (.var name))
  · next kind => exact .token kind (by simp) (reads_emptyGroup .existsGroup _)
  · next kind =>
    split
    · next second =>
      have next : ts.advance.kind = .keyword .existsKw := by rwa [kind_advance (by simp [kind])]
      exact .token kind (by simp) (.token next (by simp) (reads_emptyGroup .notExistsGroup _))
    · exact reads_constant unsigned
  · next word kind =>
    split
    · exact .error _
    · next f known =>
      exact .token kind (by simp) ((sound.arguments _).finish (Expression.call f) fun w args list => .call known list)
  · split
    · exact sound.cast ts
    · exact reads_constant unsigned

end Sound

theorem sound (p : Prologue) (fuel : Nat) : Sound p fuel := by
  induction fuel with
  | zero =>
    constructor
    · intro s ts _
      cases s <;> exact .error _
    all_goals intros; exact .error _
  | succ fuel before =>
    exact
      { phrase := fun s ts inner => by
          cases s with
          | disjunction => exact before.level_succ .disjunction ts
          | conjunction => exact before.level_succ .conjunction ts
          | relation => exact before.level_succ .relation ts
          | sum => exact before.level_succ .sum ts
          | product => exact before.level_succ .product ts
          | unary => exact before.unary_succ ts
          | primary => exact absurd rfl inner
        primary := before.primary_succ
        chain := before.chain_succ
        relation := before.relation_succ
        cast := before.cast_succ
        arguments := before.arguments_succ
        items := before.items_succ }

end Expression

end TemplateQuery
