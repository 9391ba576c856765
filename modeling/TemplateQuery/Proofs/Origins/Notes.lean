import TemplateQuery.Origins.Reader
import TemplateQuery.Proofs.Event.Printed
import TemplateQuery.Proofs.Iri.Absolute

/-! Notes are read back from a printed query. Lines in which the mark of a note cannot stand are passed over, and a note
gives its entry when no white space is in the name. -/

set_option autoImplicit false

namespace TemplateQuery.Origins

open Text

variable {front tail : List Char} {c : Char}

/-! ## One line after the other -/

theorem scan_cons_none {cs : List Char} (none : readMarked? (c :: cs) = none) : scan (c :: cs) = scan cs := by
  rw [scan.eq_def]
  simp only
  split
  · next found => rw [none] at found; cases found
  · rfl

theorem scan_of_readMarked? {cs after : List Char} {entry : String × String}
    (read : readMarked? cs = some (entry, after)) : scan cs = entry :: scan after := by
  rw [scan.eq_def]
  split
  · cases read
  · split
    · next found => rw [read] at found; cases found; rfl
    · next found => rw [read] at found; cases found

theorem readMarked?_eq_none (front : List Char) (clear : Clear front) : readMarked? (front ++ '\n' :: tail) = none := by
  have unmarked : ¬ mark <+: front ++ '\n' :: tail := by
    intro found
    have inside := (prefix_append_cons front (by decide) found).isInfix
    exact clear (List.IsInfix.trans ⟨['#'], [' '], by decide⟩ inside)
  have none : dropFront? mark (front ++ '\n' :: tail) = Option.none :=
    if_neg fun found => unmarked (List.isPrefixOf_iff_prefix.mp found)
  rw [readMarked?, none]
  rfl

theorem scan_line (clear : Clear front) : scan (front ++ '\n' :: tail) = scan tail := by
  induction front with
  | nil => exact scan_cons_none (readMarked?_eq_none [] clear)
  | cons c front ih =>
    exact (scan_cons_none (readMarked?_eq_none (c :: front) clear)).trans (ih clear.of_cons)

theorem scan_tabs (depth : Nat) : scan (List.replicate depth '\t' ++ tail) = scan tail := by
  induction depth with
  | zero => rfl
  | succ depth ih =>
    rw [List.replicate_succ, List.cons_append, scan_cons_none rfl, ih]

theorem scan_indented (depth : Nat) (clear : Clear front) : scan (Event.indented depth front ++ tail) = scan tail := by
  rw [Event.indented, List.append_assoc, List.append_assoc, scan_tabs, List.singleton_append, scan_line clear]

theorem scan_printFrom (depth : Nat) {events : List Event} (clear : ∀ e ∈ events, Clear e.line.text) :
    ∃ after, ∀ more, scan (Event.printFrom depth (events ++ more)) = scan (Event.printFrom after more) := by
  induction events generalizing depth with
  | nil => exact ⟨depth, fun more => rfl⟩
  | cons e events ih =>
    have here := clear e List.mem_cons_self
    have later := fun depth => ih depth fun d member => clear d (List.mem_cons_of_mem e member)
    simp only [List.cons_append, Event.printFrom]
    cases line : e.line with
    | nothing => exact later depth
    | plain text =>
      rw [line] at here
      obtain ⟨after, same⟩ := later depth
      exact ⟨after, fun more => (scan_indented depth here).trans (same more)⟩
    | opening text =>
      rw [line] at here
      obtain ⟨after, same⟩ := later (depth + 1)
      exact ⟨after, fun more => (scan_indented depth here).trans (same more)⟩
    | closing =>
      rw [line] at here
      obtain ⟨after, same⟩ := later (depth - 1)
      exact ⟨after, fun more => (scan_indented (depth - 1) here).trans (same more)⟩

/-! ## Notes -/

structure Legible (entry : String × String) : Prop where
  named : entry.1 ≠ ""
  unspaced : ∀ c ∈ entry.1.toList, isBlank c = false
  placed : entry.2 ≠ ""
  oneLine : '\n' ∉ entry.2.toList

theorem readEntry?_note {entry : String × String} (legible : Legible entry) (tail : List Char) :
    readEntry? (entry.1.toList ++ ' ' :: (entry.2.toList ++ '\n' :: tail)) = some (entry, tail) := by
  have atName : splitAt? isBlank (entry.1.toList ++ ' ' :: (entry.2.toList ++ '\n' :: tail)) = _ :=
    splitAt?_cut legible.unspaced (by decide)
  have atOrigin : splitAt? (· == '\n') (entry.2.toList ++ '\n' :: tail) = _ :=
    splitAt?_cut (fun c member => beq_false_of_ne fun same => legible.oneLine (same ▸ member)) rfl
  have filled : (entry.1.toList.isEmpty || entry.2.toList.isEmpty) = false := by
    simp [legible.named, legible.placed]
  simp only [atName, readEntry?, atOrigin, filled, Option.bind_eq_bind, Option.bind_some, Bool.false_eq_true,
    ↓reduceIte, String.ofList_toList]

theorem scan_note {entry : String × String} (legible : Legible entry) (depth : Nat) (tail : List Char) :
    scan (Event.indented depth ('#' :: (note entry.1 entry.2).toList) ++ tail) = entry :: scan tail := by
  have shape : '#' :: (note entry.1 entry.2).toList ++ '\n' :: tail =
      mark ++ (entry.1.toList ++ ' ' :: (entry.2.toList ++ '\n' :: tail)) := by
    have atMark : mark = '#' :: " @origin ".toList := by decide
    have blank : " ".toList = [' '] := by decide
    simp only [note, String.toList_append, atMark, blank, List.cons_append, List.append_assoc, List.nil_append]
  have marked : readMarked? ('#' :: (note entry.1 entry.2).toList ++ '\n' :: tail) = some (entry, tail) := by
    rw [shape, readMarked?, dropFront?, if_pos (List.isPrefixOf_iff_prefix.mpr (List.prefix_append _ _)),
      List.drop_left, Option.bind_some, readEntry?_note legible]
  rw [Event.indented, List.append_assoc, List.append_assoc, scan_tabs, List.singleton_append,
    scan_of_readMarked? marked]

theorem scan_notes {o : Origins} (legible : ∀ entry ∈ o.entries, Legible entry) (depth : Nat) :
    scan (Event.printFrom depth (o.notes.map .comment ++ [Event.endDocument])) = o.entries := by
  obtain ⟨entries⟩ := o
  induction entries with
  | nil => simp [notes, Event.printFrom, Event.line, scan]
  | cons entry entries ih =>
    have later := ih fun d member => legible d (List.mem_cons_of_mem entry member)
    have first := scan_note (legible entry List.mem_cons_self) depth
    simp only [notes, List.map_cons, List.cons_append, Event.printFrom, Event.line] at later ⊢
    rw [first, later]

/-! ## Entries of a table -/

theorem insertInto_fresh {name origin : String} {entries : List (String × String)}
    (fresh : name ∉ entries.map Prod.fst) : insertInto name origin entries = entries ++ [(name, origin)] := by
  induction entries with
  | nil => rfl
  | cons entry entries ih =>
    simp only [List.map_cons, List.mem_cons, not_or] at fresh
    rw [insertInto, if_neg (Ne.symm fresh.1), ih fresh.2, List.cons_append]

theorem ofEntries_of_nodup {entries : List (String × String)} (distinct : (entries.map Prod.fst).Nodup) :
    ofEntries entries = ⟨entries⟩ := by
  have onto : ∀ (rest front : List (String × String)), ((front ++ rest).map Prod.fst).Nodup →
      rest.foldl (fun o entry => o.insert entry.1 entry.2) (⟨front⟩ : Origins) = ⟨front ++ rest⟩ := by
    intro rest
    induction rest with
    | nil => simp
    | cons entry rest ih =>
      intro front distinct
      have fresh : entry.1 ∉ front.map Prod.fst := by
        rw [List.map_append, List.nodup_append] at distinct
        exact fun member => distinct.2.2 _ member _ (by simp) rfl
      have inserted : Origins.insert ⟨front⟩ entry.1 entry.2 = ⟨front ++ [entry]⟩ :=
        congrArg Origins.mk (insertInto_fresh fresh)
      simpa [inserted] using ih (front ++ [entry]) (by simpa using distinct)
  exact onto entries [] distinct

theorem mem_insertInto {name origin : String} {entries : List (String × String)} {entry : String × String}
    (member : entry ∈ insertInto name origin entries) : entry = (name, origin) ∨ entry ∈ entries := by
  induction entries with
  | nil => exact .inl (by simpa [insertInto] using member)
  | cons first rest ih =>
    unfold insertInto at member
    split at member
    · rcases List.mem_cons.mp member with same | later
      · exact .inl same
      · exact .inr (List.mem_cons_of_mem first later)
    · rcases List.mem_cons.mp member with same | later
      · exact .inr (same ▸ List.mem_cons_self)
      · exact (ih later).imp_right (List.mem_cons_of_mem first)

theorem nodup_insertInto {name origin : String} {entries : List (String × String)}
    (distinct : (entries.map Prod.fst).Nodup) : ((insertInto name origin entries).map Prod.fst).Nodup := by
  induction entries with
  | nil => simp [insertInto]
  | cons entry entries ih =>
    obtain ⟨fresh, later⟩ := List.nodup_cons.mp distinct
    unfold insertInto
    split
    · next same => rw [← same]; exact distinct
    · next other =>
      refine List.nodup_cons.mpr ⟨fun member => ?_, ih later⟩
      obtain ⟨old, found, same⟩ := List.mem_map.mp member
      rcases mem_insertInto found with rfl | early
      · exact other same.symm
      · exact fresh (same ▸ List.mem_map_of_mem early)

theorem mem_insertEach {entries : List (String × String)} {o : Origins} {entry : String × String}
    (member : entry ∈ (entries.foldl (fun o read => o.insert read.1 read.2) o).entries) :
    entry ∈ o.entries ∨ entry ∈ entries := by
  induction entries generalizing o with
  | nil => exact .inl member
  | cons first rest ih =>
    rcases ih member with early | late
    · rcases mem_insertInto early with rfl | old
      · exact .inr List.mem_cons_self
      · exact .inl old
    · exact .inr (List.mem_cons_of_mem first late)

theorem mem_ofEntries {entries : List (String × String)} {entry : String × String}
    (member : entry ∈ (ofEntries entries).entries) : entry ∈ entries :=
  (mem_insertEach member).resolve_left (by simp)

theorem unspaced_of_mem_scan {cs : List Char} {entry : String × String} (member : entry ∈ scan cs) :
    ∀ c ∈ entry.1.toList, isBlank c = false := by
  fun_induction scan cs with
  | case1 => cases member
  | case2 c rest first after read ih =>
    rcases List.mem_cons.mp member with rfl | later
    · obtain ⟨body, -, read⟩ := Option.bind_eq_some_iff.mp read
      obtain ⟨⟨name, rest⟩, atName, read⟩ := Option.bind_eq_some_iff.mp read
      obtain ⟨⟨origin, final⟩, -, read⟩ := Option.bind_eq_some_iff.mp read
      obtain ⟨-, same⟩ := Option.ite_none_left_eq_some.mp read
      cases same
      simpa using Text.clear_of_splitAt? atName
    · exact ih later
  | case3 c rest none ih => exact ih member

theorem unspaced_of_mem_ofQueryText {text : String} {entry : String × String}
    (member : entry ∈ (ofQueryText text).entries) : ∀ c ∈ entry.1.toList, isBlank c = false :=
  unspaced_of_mem_scan (mem_ofEntries member)

end TemplateQuery.Origins
