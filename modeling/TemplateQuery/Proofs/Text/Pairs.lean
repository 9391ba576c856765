import Mathlib.Data.List.Nodup

/-! Lists of pairs under keys, as they are looked up and sorted. -/

set_option autoImplicit false

namespace TemplateQuery.Pairs

variable {α : Type} {pairs others : List (String × α)} {key : String}

theorem notMem_keys (absent : pairs.lookup key = none) : key ∉ pairs.map Prod.fst := by
  intro member
  obtain ⟨pair, held, rfl⟩ := List.mem_map.mp member
  have other := List.lookup_eq_none_iff.mp absent pair held
  simp at other

theorem mem_of_lookup {content : α} (found : pairs.lookup key = some content) : (key, content) ∈ pairs := by
  obtain ⟨front, back, rfl, -⟩ := List.lookup_eq_some_iff.mp found
  simp

theorem lookup_eq_some_iff (once : (pairs.map Prod.fst).Nodup) {content : α} :
    pairs.lookup key = some content ↔ (key, content) ∈ pairs := by
  refine ⟨mem_of_lookup, fun member => ?_⟩
  cases found : pairs.lookup key with
  | none => exact absurd (List.mem_map_of_mem member) (notMem_keys found)
  | some first =>
    have same : (key, first) = (key, content) := List.inj_on_of_nodup_map once (mem_of_lookup found) member rfl
    rw [(Prod.mk.inj same).2]

theorem lookup_perm (once : (pairs.map Prod.fst).Nodup) (same : pairs.Perm others) :
    pairs.lookup key = others.lookup key := by
  ext content
  rw [lookup_eq_some_iff once, lookup_eq_some_iff ((same.map Prod.fst).nodup_iff.mp once), same.mem_iff]

theorem lookup_filter (once : (pairs.map Prod.fst).Nodup) {p : String × α → Bool}
    (kept : ∀ content, p (key, content) = true) : (pairs.filter p).lookup key = pairs.lookup key := by
  ext content
  rw [lookup_eq_some_iff once, lookup_eq_some_iff (once.sublist (List.filter_sublist.map Prod.fst)), List.mem_filter,
    and_iff_left (kept content)]

theorem ordered_mergeSort (pairs : List (String × α)) :
    (pairs.mergeSort fun a b => decide (a.1 ≤ b.1)).Pairwise fun a b => a.1 ≤ b.1 := by
  have ordered : (pairs.mergeSort fun a b => decide (a.1 ≤ b.1)).Pairwise fun a b => decide (a.1 ≤ b.1) = true :=
    List.pairwise_mergeSort (fun a b c => by simpa using String.le_trans)
      (fun a b => by simpa using String.le_total a.1 b.1) pairs
  simpa using ordered

theorem once_of_ordered (ordered : pairs.Pairwise fun a b => a.1 < b.1) : (pairs.map Prod.fst).Nodup :=
  List.pairwise_map.mpr (ordered.imp String.ne_of_lt)

theorem strict_mergeSort (once : (pairs.map Prod.fst).Nodup) :
    (pairs.mergeSort fun a b => decide (a.1 ≤ b.1)).Pairwise fun a b => a.1 < b.1 := by
  have apart : (pairs.mergeSort fun a b => decide (a.1 ≤ b.1)).Pairwise fun a b => a.1 ≠ b.1 :=
    List.pairwise_map.mp (((List.mergeSort_perm pairs _).map Prod.fst).nodup_iff.mpr once)
  exact (ordered_mergeSort pairs).imp₂ (fun a b below other => Std.lt_of_le_of_ne below other) apart

end TemplateQuery.Pairs
