import TemplateQuery.Proofs.Template.Table

/-! The declarations that an inline expression is read under. They are written without escapes, so that a base and
namespaces come back only where their text can stand between angle brackets as it is. -/

set_option autoImplicit false

namespace TemplateQuery

open Token Tokens

/-! ## IRIs and labels as they are -/

/-- IRIs that are written as they are. One that starts with `=` would be an operator together with its bracket. -/
def Iri.isVerbatim (iri : String) : Bool := iri.toList.all isIriChar && iri.toList.head? != some '='

theorem Iri.isVerbatim_of_isAbsolute {iri : String} (absolute : Iri.isAbsolute iri = true)
    (plain : iri.toList.all isIriChar = true) : Iri.isVerbatim iri = true := by
  obtain ⟨c, cs, same, letter⟩ := Iri.isAlpha_head_of_isAbsolute absolute
  have head : c ≠ '=' := by rintro rfl; exact absurd letter (by decide)
  rw [isVerbatim, plain, same]
  simpa using head

namespace Token

variable {tail : List Char} {kinds : List Kind}

theorem flatMap_writtenIriChar {iri : List Char} (plain : iri.all isIriChar = true) :
    iri.flatMap Term.writtenIriChar = iri := by
  induction iri with
  | nil => rfl
  | cons c iri ih =>
    obtain ⟨first, rest⟩ := Bool.and_eq_true_iff.mp plain
    rw [List.flatMap_cons, Term.writtenIriChar, if_pos first, ih rest, List.singleton_append]

theorem lexes_verbatim {iri : String} (verbatim : Iri.isVerbatim iri = true) (later : Lexes tail kinds) :
    Lexes ('<' :: (iri.toList ++ '>' :: tail)) (.iri iri :: kinds) := by
  obtain ⟨plain, head⟩ := Bool.and_eq_true_iff.mp verbatim
  have body := Term.iriBody?_written iri.toList tail
  rw [flatMap_writtenIriChar plain] at body
  have noEq : (iri.toList ++ '>' :: tail).head? ≠ some '=' := by
    cases same : iri.toList with
    | nil => simp
    | cons c cs => simpa [same] using head
  have scanned := scanOne?_iri _ body noEq
  rw [String.ofList_toList] at scanned
  exact .cons (by decide) scanned later

theorem lexes_label {label : String} (valid : IsLabel label.toList) (later : Lexes ('<' :: tail) kinds) :
    Lexes (label.toList ++ ':' :: '<' :: tail) (.nsLabel label :: kinds) := by
  have scanned := scanOne?_label valid ('<' :: tail)
  have none : localPart? ('<' :: tail) = Option.none := rfl
  rw [afterColon, none, String.ofList_toList] at scanned
  cases same : label.toList with
  | nil => rw [same] at scanned; exact .cons (by decide) scanned later
  | cons c cs =>
    rw [same] at scanned valid
    exact .cons (not_mem_of_any (valid.1 c rfl) (by decide)) scanned later

end Token

theorem Tokens.mem_of_kind {ts : Tokens} {kind : Kind} (found : ts.kind = kind) (inner : kind ≠ .eof) :
    kind ∈ ts.map Token.kind := by
  cases ts with
  | nil => exact absurd found.symm inner
  | cons t ts => exact List.mem_cons.mpr (.inl found.symm)

/-! ## The text of the header -/

namespace Template

variable {q : Template}

def declarationKinds (declared : String × String) : List Kind :=
  [.keyword .declare, .nsLabel declared.1, .iri declared.2]

def headerKinds (q : Template) : List Kind :=
  .keyword .base :: .iri q.systemId :: q.namespaces.flatMap declarationKinds

structure Headed (q : Template) : Prop where
  located : Iri.isAbsolute q.systemId = true
  base : Iri.isVerbatim q.systemId = true
  labels : ∀ declared ∈ q.namespaces, IsLabel declared.1.toList
  namespaces : ∀ declared ∈ q.namespaces, Iri.isVerbatim declared.2 = true

theorem lexes_declarations {namespaces : List (String × String)} {tail : List Char} {kinds : List Kind}
    (labels : ∀ declared ∈ namespaces, IsLabel declared.1.toList)
    (verbatim : ∀ declared ∈ namespaces, Iri.isVerbatim declared.2 = true) (later : Lexes tail kinds) :
    Lexes ((namespaces.flatMap fun (label, iri) =>
        "PREFIX ".toList ++ label.toList ++ ":<".toList ++ iri.toList ++ ">\n".toList) ++ tail)
      (namespaces.flatMap declarationKinds ++ kinds) := by
  induction namespaces with
  | nil => exact later
  | cons declared namespaces ih =>
    obtain ⟨label, iri⟩ := declared
    have rest := ih (fun d member => labels d (List.mem_cons_of_mem _ member))
      fun d member => verbatim d (List.mem_cons_of_mem _ member)
    have named := lexes_verbatim (verbatim _ List.mem_cons_self) (.space (show isSpace '\n' = true by rfl) rest)
    have labelled := lexes_label (labels _ List.mem_cons_self) named
    have whole : Lexes ("PREFIX".toList ++ ' ' :: _) (.keyword .declare :: _) :=
      lexes_keyword (by decide) (by decide) (by decide) (by simp [Stop]) (.space rfl labelled)
    simpa [declarationKinds] using whole

theorem Headed.lexes (headed : q.Headed) {tail : List Char} {kinds : List Kind} (later : Lexes tail kinds) :
    Lexes (q.header ++ tail) (q.headerKinds ++ kinds) := by
  have named := Iri.ne_empty_of_isAbsolute headed.located
  have rest := lexes_declarations headed.labels headed.namespaces later
  have base := lexes_verbatim headed.base (.space (show isSpace '\n' = true by rfl) rest)
  have whole : Lexes ("BASE".toList ++ ' ' :: _) (.keyword .base :: _) :=
    lexes_keyword (by decide) (by decide) (by decide) (by simp [Stop]) (.space rfl base)
  simpa [header, named, headerKinds] using whole

/-! ## What is read of it -/

/-- What inline expressions mean their names under: the place of the template as a base, and its namespaces, the
relative ones taken from there. -/
def scope (q : Template) : Prologue :=
  let located : Prologue := { base := some q.systemId }
  { located with namespaces := q.namespaces.map fun (label, iri) => (label, located.resolve iri) }

theorem readPrologue_declarations {namespaces : List (String × String)} {p : Prologue} {fuel : Nat} {ts : Tokens}
    {kind : Kind} {kinds : List Kind} (ends : kind ≠ .keyword .base ∧ kind ≠ .keyword .declare)
    (enough : namespaces.length < fuel)
    (same : ts.map Token.kind = namespaces.flatMap declarationKinds ++ kind :: kinds) :
    ∃ rest, Query.readPrologue p fuel ts =
        .ok ({ p with namespaces := p.namespaces ++ namespaces.map fun d => (d.1, p.resolve d.2) }, rest) ∧
      rest.map Token.kind = kind :: kinds := by
  induction namespaces generalizing p fuel ts with
  | nil =>
    obtain _ | fuel := fuel
    · cases enough
    · refine ⟨ts, ?_, same⟩
      rw [Query.readPrologue]
      split
      · next found => exact absurd ((kind_of_map same).symm.trans found) ends.1
      · next found => exact absurd ((kind_of_map same).symm.trans found) ends.2
      · simp
  | cons declared namespaces ih =>
    obtain _ | fuel := fuel
    · cases enough
    · have label := advance_of_map same (by simp)
      have iri := advance_of_map label (by simp)
      obtain ⟨rest, ran, after⟩ := ih (p := p.declare declared.1 declared.2) (Nat.lt_of_succ_lt_succ enough)
        (advance_of_map iri (by simp))
      refine ⟨rest, ?_, after⟩
      rw [Query.readPrologue]
      simp only [kind_of_map same, kind_of_map label, kind_of_map iri, ran]
      simp [Prologue.declare, Prologue.resolve]

theorem readPrologue_header {ts : Tokens} {kind : Kind} {kinds : List Kind}
    (ends : kind ≠ .keyword .base ∧ kind ≠ .keyword .declare)
    (same : ts.map Token.kind = q.headerKinds ++ kind :: kinds) :
    ∃ rest, Query.readPrologue {} ts.length ts = .ok (q.scope, rest) ∧ rest.map Token.kind = kind :: kinds := by
  have iri := advance_of_map same (by simp)
  have declarations := advance_of_map iri (by simp)
  -- Every declaration has tokens of its own, so the tokens are fuel enough.
  have each : ∀ declared ∈ q.namespaces, declarationKinds declared ≠ [] := by simp [declarationKinds]
  have enough : q.namespaces.length < (q.namespaces.flatMap declarationKinds).length + kinds.length + 2 := by
    have := Query.length_le_flatMap each
    omega
  have fuel : ts.length = (q.namespaces.flatMap declarationKinds).length + kinds.length + 2 + 1 := by
    rw [length_of_map same]
    simp only [headerKinds, List.length_append, List.length_cons]
    omega
  obtain ⟨rest, ran, after⟩ :=
    readPrologue_declarations (p := Prologue.setBase {} q.systemId) ends enough declarations
  refine ⟨rest, ?_, after⟩
  rw [fuel, Query.readPrologue]
  simp only [kind_of_map same, kind_of_map iri, ran]
  rfl

/-! ## The labels of a template that was read -/

theorem readPrologue_labels {fuel : Nat} {ts rest : Tokens} {p p' : Prologue}
    (tokens : ∀ label, .nsLabel label ∈ ts.map Token.kind → IsLabel label.toList)
    (labels : ∀ declared ∈ p.namespaces, IsLabel declared.1.toList)
    (ran : Query.readPrologue p fuel ts = .ok (p', rest)) :
    ∀ declared ∈ p'.namespaces, IsLabel declared.1.toList := by
  have past : ∀ {us : Tokens}, (∀ label, Kind.nsLabel label ∈ us.map Token.kind → IsLabel label.toList) →
      ∀ label, Kind.nsLabel label ∈ us.advance.map Token.kind → IsLabel label.toList :=
    fun valid label member => valid label (List.map_subset _ (advance_subset _) member)
  induction fuel generalizing ts p with
  | zero => cases ran; exact labels
  | succ fuel ih =>
    rw [Query.readPrologue] at ran
    split at ran
    · dsimp only at ran
      split at ran
      · next iri _ => exact ih (p := p.setBase iri) (past (past tokens)) labels ran
      · cases ran
    · dsimp only at ran
      split at ran
      · next label found =>
        split at ran
        · refine ih (past (past (past tokens))) ?_ ran
          have own := past tokens label (mem_of_kind found (by simp))
          exact List.forall_mem_append.mpr ⟨labels, by simpa using own⟩
        · cases ran
      · cases ran
    · cases ran; exact labels

theorem ofText_labels {text systemId : String} (read : ofText text systemId = .ok q) :
    ∀ declared ∈ q.namespaces, IsLabel declared.1.toList := by
  obtain ⟨tokens, p, body, scanned, prologue, -, same, -⟩ := ofText_ok read
  have lexes := exists_tokenize_iff.mp ⟨tokens, scanned, rfl⟩
  rw [same]
  exact readPrologue_labels lexes.isLabel (by simp) prologue

end Template

end TemplateQuery
