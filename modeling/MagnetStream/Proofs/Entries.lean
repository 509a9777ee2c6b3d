import Mathlib.Data.List.Induction
import Mathlib.Data.List.Nodup
import MagnetStream.Entries

/-!
# Looking up named entries

No name stands twice after an insertion if none did before (`nodup_names_insert`), a name that does
not stand there is not found (`get?_eq_none`), and entries that are picked by their names are found
by their names (`get?_filterMap`). Of pairs that are put one after the other, each name stands where
it came first (`names_ofPairs`), with the value that came last (`get?_ofPairs`). Entries are the
same if their names are and what is found under them is (`eq_of_get?`), and but for their order if
only the latter is (`perm_of_get?`).
-/

namespace MagnetStream

namespace Entries

variable {α : Type}

theorem mem_names_insert {entries : Entries α} {name other : String} {value : α} :
    other ∈ names (insert entries name value) ↔ other ∈ names entries ∨ other = name := by
  induction entries with
  | nil => simp [insert, names]
  | cons head rest ih =>
    obtain ⟨first, old⟩ := head
    by_cases hf : first = name
    · subst hf
      simp only [insert, beq_self_eq_true, if_true, names, List.map_cons, List.mem_cons]
      exact ⟨.inl, fun h => h.elim id .inl⟩
    · have hne : (first == name) = false := beq_eq_false_iff_ne.mpr hf
      simp only [names] at ih
      simp only [insert, hne, Bool.false_eq_true, if_false, names, List.map_cons, List.mem_cons, ih,
        or_assoc]

/-- Inserting one pair after the other adds their names, whatever values go in. -/
theorem mem_names_foldl_insert {β : Type} (value : Entries α → String × β → α)
    (pairs : List (String × β)) (entries : Entries α) {name : String} :
    name ∈ names (pairs.foldl (fun acc pair => insert acc pair.1 (value acc pair)) entries) ↔
      name ∈ names entries ∨ name ∈ names pairs := by
  induction pairs generalizing entries with
  | nil => simp [names]
  | cons first rest ih =>
    rw [List.foldl_cons, ih, mem_names_insert, or_assoc]
    simp only [names, List.map_cons, List.mem_cons]

theorem nodup_names_insert {entries : Entries α} (h : (names entries).Nodup) (name : String)
    (value : α) : (names (insert entries name value)).Nodup := by
  induction entries with
  | nil => simp [insert, names]
  | cons head rest ih =>
    obtain ⟨first, old⟩ := head
    obtain ⟨hfirst, hrest⟩ := List.nodup_cons.mp h
    by_cases hf : first = name
    · simpa [insert, hf, names] using h
    · have hname : first ∉ names (insert rest name value) :=
        fun hm => (mem_names_insert.mp hm).elim hfirst hf
      simpa [insert, hf, names] using List.nodup_cons.mpr ⟨hname, ih hrest⟩

theorem get?_eq_none {entries : Entries α} {name : String} (h : name ∉ names entries) :
    get? entries name = none := by
  induction entries with
  | nil => rfl
  | cons head rest ih =>
    obtain ⟨first, value⟩ := head
    rw [names, List.map_cons, List.mem_cons, not_or] at h
    have hne : (name == first) = false := by simpa using h.1
    simpa [get?, List.lookup_cons, hne] using ih h.2

theorem get?_eq_none_iff {entries : Entries α} {name : String} :
    get? entries name = none ↔ name ∉ names entries := by
  refine ⟨fun h hm => ?_, get?_eq_none⟩
  obtain ⟨entry, hentry, rfl⟩ := List.mem_map.mp hm
  simpa using List.lookup_eq_none_iff.mp h entry hentry

/-- Entries that are picked by their names are found by their names. -/
theorem get?_filterMap (pick : String → Option α) (list : List String) (name : String) :
    get? (list.filterMap fun other => (pick other).map (other, ·)) name =
      if name ∈ list then pick name else none := by
  induction list with
  | nil => rfl
  | cons first rest ih =>
    by_cases hn : name = first
    · subst hn
      cases hpick : pick name with
      | none => simpa [hpick, get?] using ih
      | some value => simp [hpick, get?]
    · have hne : (name == first) = false := by simpa using hn
      cases hpick : pick first with
      | none => simpa [hpick, hn] using ih
      | some value => simpa [hpick, get?, List.lookup_cons, hne, hn] using ih

theorem names_filterMap_sublist (pick : String → Option α) (list : List String) :
    (names (list.filterMap fun other => (pick other).map (other, ·))).Sublist list := by
  induction list with
  | nil => exact .slnil
  | cons first rest ih =>
    cases hpick : pick first with
    | none => simpa [hpick, names] using ih.cons first
    | some value => simpa [hpick, names] using ih.cons_cons first

/-! ## Putting pairs one after the other -/

theorem insert_of_not_mem {entries : Entries α} {name : String} (h : name ∉ names entries)
    (value : α) : insert entries name value = entries ++ [(name, value)] := by
  induction entries with
  | nil => rfl
  | cons head rest ih =>
    obtain ⟨first, old⟩ := head
    rw [names, List.map_cons, List.mem_cons, not_or] at h
    have hne : (first == name) = false := beq_eq_false_iff_ne.mpr (Ne.symm h.1)
    simp only [insert, hne, Bool.false_eq_true, if_false, ih h.2, List.cons_append]

theorem names_insert_of_mem {entries : Entries α} {name : String} (h : name ∈ names entries)
    (value : α) : names (insert entries name value) = names entries := by
  induction entries with
  | nil => cases h
  | cons head rest ih =>
    obtain ⟨first, old⟩ := head
    by_cases hf : first = name
    · simp [insert, hf, names]
    · have hrest : name ∈ names rest := (List.mem_cons.mp h).resolve_left (Ne.symm hf)
      simpa [insert, hf, names] using ih hrest

theorem insert_insert_self (entries : Entries α) (name : String) (old value : α) :
    insert (insert entries name old) name value = insert entries name value := by
  induction entries with
  | nil => simp [insert]
  | cons head rest ih =>
    obtain ⟨first, before⟩ := head
    by_cases hf : first = name <;> simp [insert, hf, ih]

/-- A name that is there keeps its place, so another one may be put before or after it. -/
theorem insert_comm {entries : Entries α} {name other : String} (h : name ∈ names entries)
    (hne : name ≠ other) (value otherValue : α) :
    insert (insert entries other otherValue) name value =
      insert (insert entries name value) other otherValue := by
  induction entries with
  | nil => cases h
  | cons head rest ih =>
    obtain ⟨first, before⟩ := head
    by_cases hf : first = name
    · subst hf
      simp [insert, hne]
    · have hrest : name ∈ names rest := (List.mem_cons.mp h).resolve_left (Ne.symm hf)
      by_cases hother : first = other
      · subst hother
        simp [insert, hf]
      · simp [insert, hf, hother, ih hrest]

theorem insertAll_cons (entries : Entries α) (name : String) (value : α)
    (pairs : List (String × α)) :
    insertAll entries ((name, value) :: pairs) = insertAll (insert entries name value) pairs := rfl

theorem insertAll_append (entries : Entries α) (front back : List (String × α)) :
    insertAll entries (front ++ back) = insertAll (insertAll entries front) back :=
  List.foldl_append ..

theorem map_insert {β : Type} (change : α → β) (entries : Entries α) (name : String) (value : α) :
    (insert entries name value).map (fun entry => (entry.1, change entry.2)) =
      insert (entries.map fun entry => (entry.1, change entry.2)) name (change value) := by
  induction entries with
  | nil => rfl
  | cons head rest ih =>
    obtain ⟨first, old⟩ := head
    by_cases hf : first = name
    · simp [insert, hf]
    · simp [insert, hf, ih]

theorem map_insertAll {β : Type} (change : α → β) (entries : Entries α)
    (pairs : List (String × α)) :
    (insertAll entries pairs).map (fun entry => (entry.1, change entry.2)) =
      insertAll (entries.map fun entry => (entry.1, change entry.2))
        (pairs.map fun pair => (pair.1, change pair.2)) := by
  induction pairs generalizing entries with
  | nil => rfl
  | cons head rest ih =>
    obtain ⟨first, value⟩ := head
    rw [insertAll_cons, ih, map_insert]
    rfl

theorem ofPairs_concat (pairs : List (String × α)) (name : String) (value : α) :
    ofPairs (pairs ++ [(name, value)]) = insert (ofPairs pairs) name value := by
  rw [ofPairs, insertAll_append]
  rfl

/-- Pairs that do not speak of a name leave it as it is. -/
theorem insert_insertAll {entries : Entries α} {name : String} {pairs : List (String × α)}
    (h : name ∈ names entries) (hpairs : name ∉ names pairs) (value : α) :
    insert (insertAll entries pairs) name value = insertAll (insert entries name value) pairs := by
  induction pairs generalizing entries with
  | nil => rfl
  | cons head rest ih =>
    obtain ⟨first, other⟩ := head
    rw [names, List.map_cons, List.mem_cons, not_or] at hpairs
    rw [insertAll_cons, insertAll_cons, ih (mem_names_insert.mpr (.inl h)) hpairs.2,
      insert_comm h hpairs.1]

/-- Putting a value into what is to be put is putting it last. -/
theorem insertAll_insert {pairs : Entries α} (h : (names pairs).Nodup) (entries : Entries α)
    (name : String) (value : α) :
    insertAll entries (insert pairs name value) = insert (insertAll entries pairs) name value := by
  induction pairs generalizing entries with
  | nil => rfl
  | cons head rest ih =>
    obtain ⟨first, old⟩ := head
    obtain ⟨hfirst, hrest⟩ := List.nodup_cons.mp h
    by_cases hf : first = name
    · subst hf
      have hthere : first ∈ names (insert entries first old) := mem_names_insert.mpr (.inr rfl)
      rw [insertAll_cons, insert_insertAll hthere hfirst, insert_insert_self]
      simp [insert, insertAll_cons]
    · have hne : (first == name) = false := beq_eq_false_iff_ne.mpr hf
      simp only [insert, hne, Bool.false_eq_true, if_false, insertAll_cons, ih hrest]

theorem mem_names_insertAll {entries : Entries α} {pairs : List (String × α)} {name : String} :
    name ∈ names (insertAll entries pairs) ↔ name ∈ names entries ∨ name ∈ names pairs :=
  mem_names_foldl_insert (fun _ pair => pair.2) pairs entries

theorem nodup_names_insertAll {entries : Entries α} (h : (names entries).Nodup)
    (pairs : List (String × α)) : (names (insertAll entries pairs)).Nodup := by
  induction pairs generalizing entries with
  | nil => exact h
  | cons head rest ih => exact ih (nodup_names_insert h ..)

theorem nodup_names_ofPairs (pairs : List (String × α)) : (names (ofPairs pairs)).Nodup :=
  nodup_names_insertAll (show (names ([] : Entries α)).Nodup from .nil) pairs

/-- It makes no difference whether pairs are put one after the other, or the entries that they make.
-/
theorem insertAll_ofPairs (entries : Entries α) (pairs : List (String × α)) :
    insertAll entries (ofPairs pairs) = insertAll entries pairs := by
  induction pairs using List.reverseRecOn with
  | nil => rfl
  | append_singleton front last ih =>
    obtain ⟨name, value⟩ := last
    rw [ofPairs_concat, insertAll_insert (nodup_names_ofPairs front), ih, insertAll_append]
    rfl

/-- The names stand in the order in which they first come. -/
theorem names_ofPairs (pairs : List (String × α)) :
    names (ofPairs pairs) = (names pairs).eraseDups := by
  induction pairs using List.reverseRecOn with
  | nil => rfl
  | append_singleton front last ih =>
    obtain ⟨name, value⟩ := last
    have hmem : name ∈ names (ofPairs front) ↔ name ∈ names front := by
      rw [ih, List.mem_eraseDups]
    have hnames : names (front ++ [(name, value)]) = names front ++ [name] := List.map_append ..
    rw [ofPairs_concat, hnames, List.eraseDups_append, ← ih]
    by_cases h : name ∈ names front
    · have hgone : [name].removeAll (names front) = [] := by simp [List.removeAll, h]
      rw [names_insert_of_mem (hmem.mpr h), hgone, List.eraseDups_nil, List.append_nil]
    · have hkept : [name].removeAll (names front) = [name] := by simp [List.removeAll, h]
      rw [insert_of_not_mem (hmem.not.mpr h), hkept]
      exact List.map_append ..

/-- The last value under a name stays. -/
theorem get?_ofPairs (pairs : List (String × α)) (name : String) :
    get? (ofPairs pairs) name = pairs.reverse.lookup name := by
  induction pairs using List.reverseRecOn with
  | nil => rfl
  | append_singleton front last ih =>
    obtain ⟨other, value⟩ := last
    rw [ofPairs_concat, List.reverse_append, List.reverse_singleton, List.singleton_append]
    by_cases h : name = other
    · subst h
      rw [get?_insert_self, List.lookup_cons_self]
    · rw [get?_insert_of_ne h, ih, List.lookup_cons, beq_eq_false_iff_ne.mpr h]

theorem mem_iff_get? {entries : Entries α} (h : (names entries).Nodup) {name : String} {value : α} :
    (name, value) ∈ entries ↔ get? entries name = some value := by
  induction entries with
  | nil => simp [get?]
  | cons head rest ih =>
    obtain ⟨first, old⟩ := head
    obtain ⟨hfirst, hrest⟩ := List.nodup_cons.mp h
    by_cases hn : name = first
    · subst hn
      have hout : (name, value) ∉ rest := fun hm => hfirst (List.mem_map.mpr ⟨_, hm, rfl⟩)
      simp [get?, hout, eq_comm]
    · have hne : (name == first) = false := beq_eq_false_iff_ne.mpr hn
      simpa [get?, List.lookup_cons, hn, hne] using ih hrest

/-! ## Entries with the same values -/

theorem insert_of_get? {entries : Entries α} {name : String} {value : α}
    (h : get? entries name = some value) : insert entries name value = entries := by
  induction entries with
  | nil => cases h
  | cons head rest ih =>
    obtain ⟨first, old⟩ := head
    by_cases hn : name = first
    · subst hn
      simp only [get?, List.lookup_cons_self, Option.some.injEq] at h
      simp [insert, h]
    · have hne : (name == first) = false := beq_eq_false_iff_ne.mpr hn
      rw [get?, List.lookup_cons, hne] at h
      simp [insert, Ne.symm hn, ih h]

theorem eq_of_get? {entries others : Entries α} (h : (names entries).Nodup)
    (hnames : names entries = names others)
    (hget : ∀ name, get? entries name = get? others name) : entries = others := by
  induction entries generalizing others with
  | nil => exact (List.map_eq_nil_iff.mp hnames.symm).symm
  | cons head rest ih =>
    obtain ⟨first, value⟩ := head
    cases others with
    | nil => cases hnames
    | cons other others =>
      obtain ⟨name, found⟩ := other
      rw [names, names, List.map_cons, List.map_cons, List.cons.injEq] at hnames
      obtain ⟨rfl, hnames⟩ := hnames
      obtain ⟨hfirst, hrest⟩ := List.nodup_cons.mp h
      have hvalue : value = found := by simpa [get?] using hget first
      have hothers : ∀ name, get? rest name = get? others name := by
        intro name
        by_cases hn : name = first
        · subst hn
          have hother : name ∉ names others := by
            rw [names, ← hnames]
            exact hfirst
          rw [get?_eq_none hfirst, get?_eq_none hother]
        · have hne : (name == first) = false := beq_eq_false_iff_ne.mpr hn
          simpa only [get?, List.lookup_cons, hne] using hget name
      rw [hvalue, ih hrest hnames hothers]

theorem perm_of_get? {entries others : Entries α} (h : (names entries).Nodup)
    (hothers : (names others).Nodup) (hget : ∀ name, get? entries name = get? others name) :
    entries.Perm others := by
  refine (List.perm_ext_iff_of_nodup (.of_map Prod.fst h) (.of_map Prod.fst hothers)).mpr
    fun (name, value) => ?_
  rw [mem_iff_get? h, mem_iff_get? hothers, hget]

end Entries
end MagnetStream
