import Mathlib.Data.Option.Defs
import TemplateQuery.Proofs.Text.Pairs
import TemplateQuery.Template.Hashing

/-! Which templates are the same. They are compared by their parameters in the order of the names, and IRIs among the
samples by what they expand to; where no name occurs twice this comes to the text, the place and the sample of each
name. What a hasher is fed with tells templates apart in the same way. -/

set_option autoImplicit false

namespace TemplateQuery

/-! ## Terms -/

namespace Term

variable {t u : Term}

/-- Terms that denote the same: equal terms, and IRIs in whatever shapes that expand to the same one. -/
def Coincides (t u : Term) : Prop := t = u ∨ ∃ iri, t.iri? = some iri ∧ u.iri? = some iri

theorem same_iff_canonical : t.same u = true ↔ t.canonical = u.canonical := by
  cases t <;> cases u <;> simp [same, canonical, iri?]

theorem canonical_eq_iff : t.canonical = u.canonical ↔ t.Coincides u := by
  constructor
  · unfold canonical
    intro same
    split at same
    · next iri first =>
      split at same
      · next other second => exact .inr ⟨iri, first, by rw [second, ← Term.iri.inj same]⟩
      · next none => cases same; cases none
    · next none =>
      split at same
      · next other second => cases same; cases none
      · exact .inl same
  · rintro (rfl | ⟨iri, first, second⟩)
    · rfl
    · rw [canonical, canonical, first, second]

theorem map_canonical_eq_iff {s r : Option Term} :
    s.map canonical = r.map canonical ↔ Option.Rel Coincides s r := by
  cases s <;> cases r <;> simp [canonical_eq_iff]

/-- What terms feed shows where it ends, and what they denote. -/
theorem fed_append_inj {rest rest' : List Fed} :
    t.fed ++ rest = u.fed ++ rest' ↔ t.canonical = u.canonical ∧ rest = rest' := by
  -- The kind of term comes first and tells where the rest starts; only the tag of a literal varies in length.
  have tags : ∀ tag tag' : Tag, tag.fed ++ rest = tag'.fed ++ rest' ↔ tag = tag' ∧ rest = rest' := by
    intro tag tag'
    cases tag <;> cases tag' <;> simp [Tag.fed]
  cases t <;> cases u <;> simp [fed, canonical, iri?, Fed.option, tags, and_assoc]

end Term

/-! ## Parameters -/

namespace Template

variable {p q : Template}

def settled (binding : String × Option Term) : String × Option Term := (binding.1, binding.2.map Term.canonical)

theorem sameSample_iff {s r : Option Term} : sameSample s r = true ↔ s.map Term.canonical = r.map Term.canonical := by
  cases s <;> cases r <;> simp [sameSample, Term.same_iff_canonical]

theorem sameBindings_iff {bs ds : List (String × Option Term)} :
    sameBindings bs ds = true ↔ bs.map settled = ds.map settled := by
  induction bs generalizing ds with
  | nil => cases ds <;> simp [sameBindings]
  | cons b bs ih => cases ds <;> simp [sameBindings, settled, sameSample_iff, ih]

theorem same_iff_settled : p.same q = true ↔
    p.text = q.text ∧ p.systemId = q.systemId ∧ p.sorted.map settled = q.sorted.map settled := by
  simp [same, sameBindings_iff, and_assoc]

theorem same_iff_identity : p.same q = true ↔ p.identity = q.identity := by
  have identity (q : Template) : q.identity = (q.text, q.systemId, q.sorted.map settled) := rfl
  rw [same_iff_settled, identity, identity, Prod.mk.injEq, Prod.mk.injEq]

theorem same_equivalence : Equivalence fun p q : Template => p.same q = true := by
  simp only [same_iff_identity]
  exact ⟨fun _ => rfl, fun same => same.symm, fun first second => first.trans second⟩

/-! ## What is fed to a hasher -/

theorem fedBinding_append_inj {b d : String × Option Term} {rest rest' : List Fed} :
    fedBinding b ++ rest = fedBinding d ++ rest' ↔ settled b = settled d ∧ rest = rest' := by
  obtain ⟨name, sample⟩ := b
  obtain ⟨name', sample'⟩ := d
  cases sample <;> cases sample' <;> simp [fedBinding, settled, Fed.option, Term.fed_append_inj, and_assoc]

theorem flatMap_fedBinding_inj {bs ds : List (String × Option Term)} (size : bs.length = ds.length) :
    bs.flatMap fedBinding = ds.flatMap fedBinding ↔ bs.map settled = ds.map settled := by
  induction bs generalizing ds with
  | nil => cases ds <;> simp at size ⊢
  | cons b bs ih =>
    cases ds with
    | nil => simp at size
    | cons d ds =>
      rw [List.flatMap_cons, List.flatMap_cons, fedBinding_append_inj, ih (Nat.succ.inj size), List.map_cons,
        List.map_cons, List.cons.injEq]

theorem same_iff_fed : p.same q = true ↔ p.fed = q.fed := by
  have fed : p.fed = q.fed ↔ p.text = q.text ∧ p.systemId = q.systemId ∧ p.sorted.length = q.sorted.length ∧
      p.sorted.flatMap fedBinding = q.sorted.flatMap fedBinding := by simp [Template.fed]
  rw [same_iff_settled, fed]
  refine and_congr_right fun _ => and_congr_right fun _ => ⟨fun settled => ?_, fun ⟨size, fed⟩ => ?_⟩
  · have size : p.sorted.length = q.sorted.length := by simpa using congrArg List.length settled
    exact ⟨size, (flatMap_fedBinding_inj size).mpr settled⟩
  · exact (flatMap_fedBinding_inj size).mp fed

/-! ## Samples by name -/

theorem perm_sorted (q : Template) : q.sorted.Perm q.bindings := List.mergeSort_perm _ _

theorem sorted_settled_eq_iff (distinct : p.names.Nodup) (others : q.names.Nodup) :
    p.sorted.map settled = q.sorted.map settled ↔ ∀ b, b ∈ p.bindings.map settled ↔ b ∈ q.bindings.map settled := by
  have perm (q : Template) : (q.sorted.map settled).Perm (q.bindings.map settled) := q.perm_sorted.map settled
  have named (q : Template) : (q.bindings.map settled).map Prod.fst = q.names := by simp [names, settled]
  have nodup {q : Template} (distinct : q.names.Nodup) : (q.bindings.map settled).Nodup :=
    .of_map Prod.fst (named q ▸ distinct)
  have ordered (q : Template) : (q.sorted.map settled).Pairwise fun a b => a.1 ≤ b.1 :=
    List.pairwise_map.mpr (Pairs.ordered_mergeSort q.bindings)
  constructor
  · intro same b
    rw [← (perm p).mem_iff, same, (perm q).mem_iff]
  · intro members
    have permuted : (p.bindings.map settled).Perm (q.bindings.map settled) :=
      (List.perm_ext_iff_of_nodup (nodup distinct) (nodup others)).mpr members
    refine List.Perm.eq_of_pairwise ?_ (ordered p) (ordered q) ((perm p).trans (permuted.trans (perm q).symm))
    -- Of two names that are equal the parameters are, since no name occurs twice.
    intro a b inFirst inSecond above below
    rw [(perm p).mem_iff] at inFirst
    rw [(perm q).mem_iff, ← members] at inSecond
    exact List.inj_on_of_nodup_map (named p ▸ distinct) inFirst inSecond (String.le_antisymm above below)

theorem sample?_of_mem (distinct : q.names.Nodup) {name : String} {s : Option Term} (member : (name, s) ∈ q.bindings) :
    q.sample? name = s := by
  rw [sample?, (Pairs.lookup_eq_some_iff distinct).mpr member]
  rfl

theorem mem_settled_iff (distinct : q.names.Nodup) {name : String} {s : Option Term} :
    (name, s) ∈ q.bindings.map settled ↔ name ∈ q.names ∧ (q.sample? name).map Term.canonical = s := by
  constructor
  · intro member
    obtain ⟨⟨name', r⟩, declared, same⟩ := List.mem_map.mp member
    cases same
    exact ⟨List.mem_map_of_mem declared, by rw [sample?_of_mem distinct declared]⟩
  · rintro ⟨named, rfl⟩
    obtain ⟨⟨name', r⟩, declared, rfl⟩ := List.mem_map.mp named
    rw [sample?_of_mem distinct declared]
    exact List.mem_map_of_mem declared

theorem settled_iff_samples (distinct : p.names.Nodup) (others : q.names.Nodup) :
    (∀ b, b ∈ p.bindings.map settled ↔ b ∈ q.bindings.map settled) ↔
      (∀ name, name ∈ p.names ↔ name ∈ q.names) ∧
      ∀ name ∈ p.names, Option.Rel Term.Coincides (p.sample? name) (q.sample? name) := by
  simp only [Prod.forall, mem_settled_iff distinct, mem_settled_iff others, ← Term.map_canonical_eq_iff]
  constructor
  · intro settled
    refine ⟨fun name => ?_, fun name member => ?_⟩
    · exact ⟨fun member => ((settled name _).mp ⟨member, rfl⟩).1, fun member => ((settled name _).mpr ⟨member, rfl⟩).1⟩
    · exact ((settled name _).mp ⟨member, rfl⟩).2.symm
  · rintro ⟨named, samples⟩ name s
    rw [← named]
    exact and_congr_right fun member => by rw [samples name member]

theorem same_reordered (distinct : p.names.Nodup) {bindings : List (String × Option Term)}
    (perm : bindings.Perm p.bindings) (namespaces : List (String × String)) :
    ({ p with bindings, namespaces } : Template).same p = true := by
  have reordered : ({ p with bindings, namespaces } : Template).names.Nodup :=
    (perm.map Prod.fst).nodup_iff.mpr distinct
  refine same_iff_settled.mpr ⟨rfl, rfl, (sorted_settled_eq_iff reordered distinct).mpr ?_⟩
  exact fun b => (perm.map settled).mem_iff

/-- Templates in which no name of a parameter occurs twice are the same exactly when their texts, their places and the
names of their parameters are, and the samples of each name are both absent or denote the same. This is an equivalence,
in which neither the order of parameters nor namespaces count, and a hasher is fed alike with templates exactly when
they are the same. -/
theorem same_iff_samples (p q : Template) (distinct : p.names.Nodup ∧ q.names.Nodup) :
    (p.same q = true ↔ p.text = q.text ∧ p.systemId = q.systemId ∧ (∀ name, name ∈ p.names ↔ name ∈ q.names) ∧
      ∀ name ∈ p.names, Option.Rel Term.Coincides (p.sample? name) (q.sample? name)) ∧
    Equivalence (fun p q : Template => p.same q = true) ∧
    (∀ bindings namespaces, bindings.Perm p.bindings →
      ({ p with bindings, namespaces } : Template).same q = p.same q) ∧
    (p.same q = true ↔ p.fed = q.fed) := by
  refine ⟨?_, same_equivalence, fun bindings namespaces perm => ?_, same_iff_fed⟩
  · rw [same_iff_settled, sorted_settled_eq_iff distinct.1 distinct.2, settled_iff_samples distinct.1 distinct.2]
  · have reordered := same_reordered distinct.1 perm namespaces
    rw [Bool.eq_iff_iff]
    exact ⟨same_equivalence.trans (same_equivalence.symm reordered), same_equivalence.trans reordered⟩

def portrait : Template where
  text := "DESCRIBE ?who"
  systemId := "http://example.org/"
  namespaces := [("ex", "http://example.org/people#")]
  bindings := [("who", some (.curie "ex" "ann" "http://example.org/people#ann")), ("lang", none)]

def likeness : Template where
  text := "DESCRIBE ?who"
  systemId := "http://example.org/"
  bindings := [("lang", none), ("who", some (.iri "http://example.org/people#ann"))]

theorem same_iff_samples_portrait :
    (portrait.names.Nodup ∧ likeness.names.Nodup) ∧ portrait.same likeness = true ∧ portrait.fed = likeness.fed ∧
      ({ portrait with bindings := portrait.bindings.reverse, namespaces := [] } : Template).same likeness = true ∧
      portrait.bindings ≠ likeness.bindings.reverse := by
  have distinct : portrait.names.Nodup ∧ likeness.names.Nodup := by decide
  obtain ⟨samples, -, reordered, fed⟩ := same_iff_samples portrait likeness distinct
  have same : portrait.same likeness = true := by
    refine samples.mpr ⟨rfl, rfl, by simp [names, portrait, likeness, or_comm], fun name member => ?_⟩
    simp only [names, portrait, List.map_cons, List.map_nil, List.mem_cons, List.not_mem_nil, or_false] at member
    rcases member with rfl | rfl
    · exact .some (.inr ⟨"http://example.org/people#ann", rfl, rfl⟩)
    · exact .none
  refine ⟨distinct, same, fed.mp same, ?_, by decide⟩
  rw [reordered _ [] portrait.bindings.reverse_perm, same]

end Template

end TemplateQuery
