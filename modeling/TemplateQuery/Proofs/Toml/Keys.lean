import TemplateQuery.Proofs.Text.Pairs
import TemplateQuery.Settings

/-! Keys of settings. A document that is read has each key of a table once, at every depth, so the namespaces in it are
those of a map. -/

set_option autoImplicit false

namespace TemplateQuery

namespace Toml

/-- Each key of a table is there once, at every depth. -/
inductive Keyed : Toml → Prop where
  | text (content : String) : Keyed (.text content)
  | flag (content : Bool) : Keyed (.flag content)
  | emptyArray : Keyed .emptyArray
  | table (kind : TableKind) {entries : Entries} (once : (entries.map Prod.fst).Nodup)
      (inner : ∀ entry ∈ entries, Keyed entry.2) : Keyed (.table kind entries)

structure Distinct (entries : Entries) : Prop where
  once : (entries.map Prod.fst).Nodup
  inner : ∀ entry ∈ entries, Keyed entry.2

theorem keyed_table_iff {kind : TableKind} {entries : Entries} : Keyed (.table kind entries) ↔ Distinct entries := by
  refine ⟨fun keyed => ?_, fun distinct => .table kind distinct.once distinct.inner⟩
  cases keyed with
  | table _ once inner => exact ⟨once, inner⟩

theorem Distinct.nil : Distinct [] := ⟨.nil, nofun⟩

theorem Distinct.keyed {entries : Entries} (distinct : Distinct entries) {key : String} {content : Toml}
    (found : entries.lookup key = some content) : Keyed content :=
  distinct.inner _ ((Pairs.lookup_eq_some_iff distinct.once).mp found)

/-! ## One more entry -/

theorem Distinct.append {entries : Entries} (distinct : Distinct entries) {key : String}
    (absent : entries.lookup key = none) {content : Toml} (keyed : Keyed content) :
    Distinct (entries ++ [(key, content)]) where
  once := by
    rw [List.map_append]
    exact List.nodup_append_comm.mp (List.nodup_cons.mpr ⟨Pairs.notMem_keys absent, distinct.once⟩)
  inner := List.forall_mem_append.mpr ⟨distinct.inner, List.forall_mem_singleton.mpr keyed⟩

theorem keys_replace (key : String) (content : Toml) (entries : Entries) :
    (replace key content entries).map Prod.fst = entries.map Prod.fst := by
  fun_induction replace key content entries with
  | case1 => rfl
  | case2 entry rest same => simp [same]
  | case3 entry rest other ih => simp [ih]

theorem Distinct.replace {entries : Entries} (distinct : Distinct entries) (key : String) {content : Toml}
    (keyed : Keyed content) : Distinct (Toml.replace key content entries) where
  once := by
    rw [keys_replace]
    exact distinct.once
  inner := by
    -- The rest of the entries need not have distinct keys of its own here.
    have inner := distinct.inner
    clear distinct
    fun_induction Toml.replace key content entries with
    | case1 => exact inner
    | case2 entry rest same =>
      exact List.forall_mem_cons.mpr ⟨keyed, (List.forall_mem_cons.mp inner).2⟩
    | case3 entry rest other ih =>
      rw [List.forall_mem_cons] at inner ⊢
      exact ⟨inner.1, ih inner.2⟩

theorem Distinct.within {entries : Entries} (distinct : Distinct entries) {key : String} {kind kind' : TableKind}
    {held inner : Entries} (found : entries.lookup key = some (.table kind held))
    (kept : Distinct held → Distinct inner) : Distinct (Toml.replace key (.table kind' inner) entries) :=
  distinct.replace key (keyed_table_iff.mpr (kept (keyed_table_iff.mp (distinct.keyed found))))

theorem Distinct.assign {content : Toml} (keyed : Keyed content) {path : List String} {entries after : Entries}
    (distinct : Distinct entries) (assigned : assign? content path entries = some after) : Distinct after := by
  fun_induction assign? content path entries generalizing after with
  | case1 => cases assigned
  | case2 => cases assigned
  | case3 key entries absent =>
    cases assigned
    exact distinct.append (Option.not_isSome_iff_eq_none.mp absent) keyed
  | case4 key path entries _ absent ih =>
    obtain ⟨inner, changed, rfl⟩ := Option.map_eq_some_iff.mp assigned
    exact distinct.append absent (keyed_table_iff.mpr (ih .nil changed))
  | case5 key path entries _ held found ih =>
    obtain ⟨inner, changed, rfl⟩ := Option.map_eq_some_iff.mp assigned
    exact distinct.within found (ih · changed)
  | case6 => cases assigned

theorem Distinct.define {path : List String} {entries after : Entries} (distinct : Distinct entries)
    (defined : define? path entries = some after) : Distinct after := by
  fun_induction define? path entries generalizing after with
  | case1 => cases defined
  | case2 key entries absent =>
    cases defined
    exact distinct.append absent (keyed_table_iff.mpr .nil)
  | case3 key entries held found =>
    cases defined
    exact distinct.within found id
  | case4 => cases defined
  | case5 key path entries _ absent ih =>
    obtain ⟨inner, changed, rfl⟩ := Option.map_eq_some_iff.mp defined
    exact distinct.append absent (keyed_table_iff.mpr (ih .nil changed))
  | case6 => cases defined
  | case7 key path entries _ kind held _ found ih =>
    obtain ⟨inner, changed, rfl⟩ := Option.map_eq_some_iff.mp defined
    exact distinct.within found (ih · changed)
  | case8 => cases defined

theorem Distinct.assignIn {content : Toml} (keyed : Keyed content) {path header : List String}
    {entries after : Entries} (distinct : Distinct entries)
    (assigned : assignIn? content path header entries = some after) : Distinct after := by
  fun_induction assignIn? content path header entries generalizing after with
  | case1 entries => exact distinct.assign keyed assigned
  | case2 key header entries kind held found ih =>
    obtain ⟨inner, changed, rfl⟩ := Option.map_eq_some_iff.mp assigned
    exact distinct.within found (ih · changed)
  | case3 => cases assigned

/-! ## The document -/

theorem keyed_of_read (steps : Nat) :
    (∀ {cs content rest}, value? steps cs = some (content, rest) → Keyed content) ∧
      ∀ {entries cs after rest}, Distinct entries → pairs? steps entries cs = some (after, rest) → Distinct after := by
  -- The two readers call each other with one step less, so both are needed at once.
  induction steps with
  | zero => exact ⟨nofun, nofun⟩
  | succ steps ih =>
    obtain ⟨keyed, pairs⟩ := ih
    refine ⟨fun {cs content rest} read => ?_, fun {entries cs after rest} distinct read => ?_⟩
    · unfold value? at read
      dsimp only at read
      split at read
      · cases read
        exact .flag true
      · cases read
        exact .flag false
      · split at read <;> cases read
        exact .emptyArray
      · split at read
        · cases read
          exact keyed_table_iff.mpr .nil
        · obtain ⟨⟨entries, _⟩, within, ⟨⟩⟩ := Option.map_eq_some_iff.mp read
          exact keyed_table_iff.mpr (pairs .nil within)
      · obtain ⟨_, -, ⟨⟩⟩ := Option.map_eq_some_iff.mp read
        exact .text _
    · unfold pairs? at read
      dsimp only at read
      split at read
      · obtain ⟨⟨content, behind⟩, value, read⟩ := Option.bind_eq_some_iff.mp read
        obtain ⟨longer, assigned, read⟩ := Option.bind_eq_some_iff.mp read
        have distinct := distinct.assign (keyed value) assigned
        split at read
        · exact pairs distinct read
        · cases read
          exact distinct
        · cases read
      · cases read

theorem Distinct.statement {header : List String} {entries : Entries} (distinct : Distinct entries) {cs : List Char}
    {header' : List String} {after : Entries} {rest : List Char}
    (read : statement? header entries cs = some (header', after, rest)) : Distinct after := by
  unfold statement? at read
  split at read
  · split at read
    · obtain ⟨longer, defined, read⟩ := Option.bind_eq_some_iff.mp read
      obtain ⟨_, -, ⟨⟩⟩ := Option.bind_eq_some_iff.mp read
      exact distinct.define defined
    · cases read
  · split at read
    · obtain ⟨⟨content, behind⟩, value, read⟩ := Option.bind_eq_some_iff.mp read
      obtain ⟨longer, assigned, read⟩ := Option.bind_eq_some_iff.mp read
      obtain ⟨_, -, ⟨⟩⟩ := Option.bind_eq_some_iff.mp read
      exact distinct.assignIn ((keyed_of_read _).1 value) assigned
    · cases read

theorem Distinct.statements {steps : Nat} {header : List String} {entries : Entries} (distinct : Distinct entries)
    {cs : List Char} {after : Entries} (read : statements? steps header entries cs = some after) : Distinct after := by
  fun_induction statements? steps header entries cs with
  | case1 => cases read
  | case2 =>
    cases read
    exact distinct
  | case3 header entries cs steps _ ih =>
    obtain ⟨⟨header', longer, rest⟩, first, read⟩ := Option.bind_eq_some_iff.mp read
    exact ih _ _ _ (distinct.statement first) read

theorem distinct_of_ofChars? {cs : List Char} {entries : Entries} (read : ofChars? cs = some entries) :
    Distinct entries :=
  Distinct.nil.statements read

end Toml

/-! ## The namespaces -/

namespace Settings

theorem keys_of_labelled {entries : Toml.Entries} {pairs : List (String × String)}
    (labelled : entries.mapM labelled? = some pairs) : pairs.map Prod.fst = entries.map Prod.fst := by
  induction entries generalizing pairs with
  | nil =>
    cases labelled
    rfl
  | cons entry entries ih =>
    rw [List.mapM_cons] at labelled
    obtain ⟨pair, first, labelled⟩ := Option.bind_eq_some_iff.mp labelled
    obtain ⟨others, rest, ⟨⟩⟩ := Option.bind_eq_some_iff.mp labelled
    have same : pair.1 = entry.1 := by
      unfold labelled? at first
      split at first <;> cases first
      rfl
    rw [List.map_cons, List.map_cons, same, ih rest]

theorem ordered_of_namespacesOf? {content : Toml} (keyed : content.Keyed) {pairs : List (String × String)}
    (read : namespacesOf? content = some pairs) : pairs.Pairwise fun a b => a.1 < b.1 := by
  unfold namespacesOf? at read
  split at read
  · obtain ⟨unsorted, labelled, rfl⟩ := Option.map_eq_some_iff.mp read
    refine Pairs.strict_mergeSort ?_
    rw [keys_of_labelled labelled]
    exact (Toml.keyed_table_iff.mp keyed).once
  · cases read

theorem ordered_of_set? {s : Settings} (ordered : s.namespaces.Pairwise fun a b => a.1 < b.1) {key : String}
    {content : Toml} (keyed : content.Keyed) {s' : Settings} (set : s.set? key content = some s') :
    s'.namespaces.Pairwise fun a b => a.1 < b.1 := by
  unfold set? at set
  split at set
  · obtain ⟨_, -, rfl⟩ := Option.map_eq_some_iff.mp set
    exact ordered
  · cases set
    exact ordered
  · cases set
    exact ordered
  · obtain ⟨pairs, read, rfl⟩ := Option.map_eq_some_iff.mp set
    exact ordered_of_namespacesOf? keyed read
  · cases set

theorem ordered_of_foldlM {entries : Toml.Entries} (inner : ∀ entry ∈ entries, entry.2.Keyed) {s s' : Settings}
    (ordered : s.namespaces.Pairwise fun a b => a.1 < b.1)
    (read : entries.foldlM (fun s (key, content) => s.set? key content) s = some s') :
    s'.namespaces.Pairwise fun a b => a.1 < b.1 := by
  induction entries generalizing s with
  | nil =>
    cases read
    exact ordered
  | cons entry entries ih =>
    rw [List.forall_mem_cons] at inner
    rw [List.foldlM_cons] at read
    obtain ⟨next, set, read⟩ := Option.bind_eq_some_iff.mp read
    exact ih inner.2 (ordered_of_set? ordered inner.1 set) read

theorem ordered_of_ofText? {text : String} {s : Settings} (read : ofText? text = some s) :
    s.namespaces.Pairwise fun a b => a.1 < b.1 := by
  obtain ⟨entries, parsed, read⟩ := Option.bind_eq_some_iff.mp read
  exact ordered_of_foldlM (Toml.distinct_of_ofChars? parsed).inner .nil read

end Settings

end TemplateQuery
