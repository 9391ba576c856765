import TemplateQuery.Expression
import TemplateQuery.Term.Constant

/-! Reading expressions. Binary operators stand on five levels of binding; all but comparisons group to
the left, and a comparison has exactly two sides. -/

set_option autoImplicit false

namespace TemplateQuery

namespace Expression

/-- Levels of operators, the loosest first. -/
inductive Level where
  | disjunction | conjunction | relation | sum | product
  deriving DecidableEq, Repr

/-- The operator of a level that a token stands for, on the levels that group to the left. -/
def Level.operator? : Level → Token.Kind → Option BinaryOperator
  | .disjunction, .punct .or => some .or
  | .conjunction, .punct .and => some .and
  | .sum, .punct .plus => some (.arithmetic .add)
  | .sum, .punct .minus => some (.arithmetic .sub)
  | .product, .punct .star => some (.arithmetic .mul)
  | .product, .punct .slash => some (.arithmetic .div)
  | _, _ => none

def comparison? : Token.Kind → Option Comparison
  | .punct .eq => some .eq
  | .punct .ne => some .ne
  | .punct .lt => some .lt
  | .punct .le => some .le
  | .punct .gt => some .gt
  | .punct .ge => some .ge
  | _ => none

def unaryOperator? : Token.Kind → Option UnaryOperator
  | .punct .bang => some .not
  | .punct .plus => some .pos
  | .punct .minus => some .neg
  | _ => none

def isCastable (iri : String) : Bool :=
  iri == Vocabulary.xsdString || iri == Vocabulary.xsdInteger || iri == Vocabulary.xsdDecimal
    || iri == Vocabulary.xsdDouble || iri == Vocabulary.xsdFloat || iri == Vocabulary.xsdBoolean

def startsIri : Token.Kind → Bool
  | .iri _ | .prefixed _ _ | .nsLabel _ => true
  | _ => false

def readEmptyGroup (ts : Tokens) : Except ReadError Tokens := do
  let ts ← ts.expect (.punct .lbrace) "'\x7b'"
  match ts.accept? (.punct .rbrace) with
  | some rest => .ok rest
  | none => ts.fail .nonEmptyGroup

def readConstant (p : Prologue) (ts : Tokens) : Except ReadError (Expression × Tokens) := do
  match ← Term.readConstant? p ts with
  | some (t, rest) => .ok (.term t, rest)
  | none => ts.fail (.expected "expression" ts.kind)

mutual

def readLevel (p : Prologue) (fuel : Nat) (level : Level) (ts : Tokens) :
    Except ReadError (Expression × Tokens) :=
  match fuel with
  | 0 => ts.fail (.expected "expression" ts.kind)
  | fuel + 1 =>
    match level with
    | .disjunction => do
      let (left, ts) ← readLevel p fuel .conjunction ts
      readChain p fuel .disjunction left ts
    | .conjunction => do
      let (left, ts) ← readLevel p fuel .relation ts
      readChain p fuel .conjunction left ts
    | .relation => do
      let (left, ts) ← readLevel p fuel .sum ts
      readRelation p fuel left ts
    | .sum => do
      let (left, ts) ← readLevel p fuel .product ts
      readChain p fuel .sum left ts
    | .product => do
      let (left, ts) ← readUnary p fuel ts
      readChain p fuel .product left ts

def readChain (p : Prologue) (fuel : Nat) (level : Level) (left : Expression) (ts : Tokens) :
    Except ReadError (Expression × Tokens) :=
  match fuel with
  | 0 => ts.fail (.expected "expression" ts.kind)
  | fuel + 1 =>
    match level.operator? ts.kind with
    | none => .ok (left, ts)
    | some op => do
      let (right, ts) ← match level with
        | .disjunction => readLevel p fuel .conjunction ts.advance
        | .conjunction => readLevel p fuel .relation ts.advance
        | .sum => readLevel p fuel .product ts.advance
        | _ => readUnary p fuel ts.advance
      readChain p fuel level (.binary op left right) ts

def readRelation (p : Prologue) (fuel : Nat) (left : Expression) (ts : Tokens) :
    Except ReadError (Expression × Tokens) :=
  match fuel with
  | 0 => ts.fail (.expected "expression" ts.kind)
  | fuel + 1 =>
    match comparison? ts.kind with
    | some op => do
      let (right, ts) ← readLevel p fuel .sum ts.advance
      .ok (.binary (.compare op) left right, ts)
    | none =>
      if ts.kind = .keyword .inKw then do
        let (items, ts) ← readArguments p fuel ts.advance
        .ok (.inList left items false, ts)
      else if ts.kind = .keyword .notKw ∧ ts.kindAt 1 = .keyword .inKw then do
        let (items, ts) ← readArguments p fuel ts.advance.advance
        .ok (.inList left items true, ts)
      else .ok (left, ts)

def readUnary (p : Prologue) (fuel : Nat) (ts : Tokens) : Except ReadError (Expression × Tokens) :=
  match fuel with
  | 0 => ts.fail (.expected "expression" ts.kind)
  | fuel + 1 =>
    match unaryOperator? ts.kind with
    | some op => do
      let (operand, ts) ← readUnary p fuel ts.advance
      .ok (.unary op operand, ts)
    | none => readPrimary p fuel ts

def readPrimary (p : Prologue) (fuel : Nat) (ts : Tokens) : Except ReadError (Expression × Tokens) :=
  match fuel with
  | 0 => ts.fail (.expected "expression" ts.kind)
  | fuel + 1 =>
    match ts.kind with
    | .punct .lparen => do
      let (inner, ts) ← readLevel p fuel .disjunction ts.advance
      .ok (inner, ← ts.expect (.punct .rparen) "')'")
    | .var name => .ok (.var name, ts.advance)
    | .keyword .existsKw => do .ok (.existsGroup false, ← readEmptyGroup ts.advance)
    | .keyword .notKw =>
      if ts.kindAt 1 = .keyword .existsKw then do .ok (.existsGroup true, ← readEmptyGroup ts.advance.advance)
      else readConstant p ts
    | .name word =>
      match Function.ofWord? word.toList with
      | none => ts.fail (.unknownFunction word)
      | some f => do
        let (args, ts) ← readArguments p fuel ts.advance
        .ok (.call f args, ts)
    | kind =>
      if startsIri kind ∧ ts.kindAt 1 = .punct .lparen then readCast p fuel ts
      else readConstant p ts

def readCast (p : Prologue) (fuel : Nat) (ts : Tokens) : Except ReadError (Expression × Tokens) :=
  match fuel with
  | 0 => ts.fail (.expected "expression" ts.kind)
  | fuel + 1 => do
    let (iri, ts) ← Term.readIri p ts
    if !isCastable iri then ts.fail (.unsupportedFunction iri)
    else do
      let (args, ts) ← readArguments p fuel ts
      match args with
      | [arg] => .ok (.cast iri arg, ts)
      | _ => ts.fail (.castArguments iri)

def readArguments (p : Prologue) (fuel : Nat) (ts : Tokens) : Except ReadError (List Expression × Tokens) :=
  match fuel with
  | 0 => ts.fail (.expected "expression" ts.kind)
  | fuel + 1 => do
    let ts ← ts.expect (.punct .lparen) "'('"
    match ts.accept? (.punct .rparen) with
    | some rest => .ok ([], rest)
    | none => readItems p fuel ts

def readItems (p : Prologue) (fuel : Nat) (ts : Tokens) : Except ReadError (List Expression × Tokens) :=
  match fuel with
  | 0 => ts.fail (.expected "expression" ts.kind)
  | fuel + 1 => do
    let (first, ts) ← readLevel p fuel .disjunction ts
    match ts.accept? (.punct .comma) with
    | some rest => do
      let (items, ts) ← readItems p fuel rest
      .ok (first :: items, ts)
    | none => .ok ([first], ← ts.expect (.punct .rparen) "')' or ','")

end

/-- Calls nest at most so deep over a number of tokens. -/
def enoughFuel (ts : Tokens) : Nat := 10 * ts.length + 10

def read (p : Prologue) (ts : Tokens) : Except ReadError (Expression × Tokens) :=
  readLevel p (enoughFuel ts) .disjunction ts

end Expression

end TemplateQuery
