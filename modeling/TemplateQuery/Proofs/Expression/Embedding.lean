import Mathlib.Data.List.Basic
import TemplateQuery.Proofs.Expression.Exact
import TemplateQuery.Proofs.Token.Embedding

/-! An expression inside a query. What is read from some tokens alone is spelt by them, and is therefore read again
where `AS` and other tokens follow. What is spelt has no two strings side by side. -/

set_option autoImplicit false

namespace TemplateQuery.Expression

open Token Tokens

variable {p : Prologue} {v w : List Kind}

/-! ## The tokens of an expression -/

/-- Tokens that others may follow: the text does not end among them, and no two strings stand side by side. -/
structure Embeddable (w : List Kind) : Prop where
  inner : .eof ∉ w
  spaced : Spaced w

namespace Embeddable

theorem nil : Embeddable [] := ⟨by simp, .nil⟩

theorem single {kind : Kind} (inner : kind ≠ .eof) : Embeddable [kind] := ⟨by simp [inner.symm], .singleton _⟩

theorem join {kind : Kind} (first : Embeddable v) (inner : kind ≠ .eof) (plain : kind.isString = false)
    (second : Embeddable w) : Embeddable (v ++ kind :: w) := by
  refine ⟨by simp [first.inner, second.inner, inner.symm], ?_⟩
  have later : Spaced (kind :: w) := List.isChain_cons.mpr ⟨fun other _ => by simp [plain], second.spaced⟩
  exact List.isChain_append.mpr ⟨first.spaced, later, fun a _ b member => by simp_all⟩

theorem cons {kind : Kind} (inner : kind ≠ .eof) (plain : kind.isString = false) (later : Embeddable w) :
    Embeddable (kind :: w) :=
  nil.join inner plain later

theorem parens (inner : Embeddable w) : Embeddable (.punct .lparen :: (w ++ [Kind.punct .rparen])) :=
  .cons (by simp) rfl (inner.join (by simp) rfl .nil)

end Embeddable

theorem DenotesIri.plain {kind : Kind} {iri : String} (denotes : DenotesIri p kind iri) :
    kind ≠ .eof ∧ kind.isString = false := by
  cases denotes <;> exact ⟨by simp, rfl⟩

theorem DenotesTerm.embeddable {t : Term} (denotes : DenotesTerm p w t) : Embeddable w := by
  cases denotes with
  | integer | decimal | double | yes | no | blank | plain => exact .single (by simp)
  | tagged text tag => exact .join (.single (by simp)) (by simp) rfl .nil
  | typed text denotes => exact .join (.single (by simp)) (by simp) rfl (.single denotes.plain.1)
  | iri denotes => exact .single denotes.plain.1

theorem Joins.plain {s t : Phrase} {kind : Kind} {op : BinaryOperator} (joins : Joins s kind op t) :
    kind.isString = false := by
  cases joins <;> rfl

mutual

theorem Derives.embeddable {s : Phrase} {w : List Kind} {e : Expression} (derives : Derives p s w e) :
    Embeddable w := by
  match derives with
  | .tighter _ inner => exact inner.embeddable
  | .chain joins first second => exact first.embeddable.join joins.inner joins.plain second.embeddable
  | .comparison _ first second => exact first.embeddable.join (by simp) rfl second.embeddable
  | .isIn first list => exact first.embeddable.join (by simp) rfl list.embeddable
  | .notIn first list => exact first.embeddable.join (by simp) rfl (list.embeddable.cons (by simp) rfl)
  | .unary _ inner => exact inner.embeddable.cons (by simp) rfl
  | .parens inner => exact inner.embeddable.parens
  | .var _ => exact .single (by simp)
  | .existsGroup => exact .cons (by simp) rfl (.cons (by simp) rfl (.single (by simp)))
  | .notExistsGroup => exact .cons (by simp) rfl (.cons (by simp) rfl (.cons (by simp) rfl (.single (by simp))))
  | .call _ list => exact list.embeddable.cons (by simp) rfl
  | .cast denotes _ inner => exact inner.embeddable.parens.cons denotes.plain.1 denotes.plain.2
  | .constant denotes => exact denotes.embeddable

theorem DerivesList.embeddable {w : List Kind} {items : List Expression} (derives : DerivesList p w items) :
    Embeddable w := by
  match derives with
  | .empty => exact Embeddable.nil.parens
  | .items inner => exact inner.embeddable.parens

theorem DerivesItems.embeddable {w : List Kind} {items : List Expression} (derives : DerivesItems p w items) :
    Embeddable w := by
  match derives with
  | .last inner => exact inner.embeddable
  | .cons first rest => exact first.embeddable.join (by simp) rfl rest.embeddable

end

/-! ## Reading on -/

variable {used : List Kind} {ts ts' : Tokens} {e : Expression} {rest : Tokens}

theorem derives_of_read (inner : Kind.eof ∉ used) (short : ts.map Token.kind = used ++ [Kind.eof])
    (ran : read p ts = .ok (e, rest)) (whole : rest.kind = .eof) : Derives p .disjunction used e := by
  obtain ⟨front, rfl, derives⟩ := (sound p _).phrase .disjunction ts (by simp) e rest ran
  cases rest with
  | nil =>
    -- All tokens would have been read, but the last of them is part of no expression.
    rw [List.append_nil] at short
    exact absurd (by simp [short]) derives.embeddable.inner
  | cons t rest =>
    have last : t.kind = .eof := whole
    rw [List.map_append, List.map_cons, last] at short
    obtain ⟨same, -⟩ := (List.append_cons_inj_of_notMem inner List.not_mem_nil).mp short.symm
    rwa [same]

theorem read_before {more : List Kind} (inner : Kind.eof ∉ used) (short : ts.map Token.kind = used ++ [Kind.eof])
    (ran : read p ts = .ok (e, rest)) (whole : rest.kind = .eof)
    (long : ts'.map Token.kind = used ++ Kind.keyword .asKw :: more) :
    ∃ rest', read p ts' = .ok (e, rest') ∧ rest'.map Token.kind = .keyword .asKw :: more := by
  have derives := derives_of_read inner short ran whole
  obtain ⟨front, rest', rfl, rfl, after⟩ := List.map_eq_append_iff.mp long
  have closed : Tokens.kind rest' ∈ closers := by
    rw [kind_of_map after]
    decide
  exact ⟨rest', read_of_derives derives closed, after⟩

theorem spaced_of_read (inner : Kind.eof ∉ used) (short : ts.map Token.kind = used ++ [Kind.eof])
    (ran : read p ts = .ok (e, rest)) (whole : rest.kind = .eof) : Spaced used :=
  (derives_of_read inner short ran whole).embeddable.spaced

end TemplateQuery.Expression
