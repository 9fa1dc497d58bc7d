import FormLease.Directory
import Mathlib.Algebra.GroupWithZero.Nat

/-!
# What the view of a directory decides

The view `find?` says which entries there are (`mem_entries_iff`) but not
in which order they stand, so it decides everything that does not depend
on the order. The number of entries is such a thing
(`size_eq_of_find?_eq`).
-/

namespace FormLease

namespace Directory

variable {α : Type}

theorem findEntry_eq_some_iff {name : String} {value : α} {entries : List (String × α)}
    (h : (entries.map Prod.fst).Nodup) :
    findEntry name entries = some value ↔ (name, value) ∈ entries := by
  induction entries with
  | nil => simp [findEntry]
  | cons e rest ih =>
      obtain ⟨n, v⟩ := e
      rw [List.map_cons, List.nodup_cons] at h
      by_cases hn : n = name
      · subst hn
        have hrest : (n, value) ∉ rest := fun hm => h.1 (List.mem_map.mpr ⟨_, hm, rfl⟩)
        simp [findEntry, hrest, eq_comm]
      · have hne : ¬ name = n := fun heq => hn heq.symm
        simp [findEntry, hn, hne, ih h.2]

/-- What is found after a change of one name was found before, or is what
the name was given. -/
theorem find?_put_cases {d : Directory α} {name n : String} {value a : α}
    (h : (d.put name value).find? n = some a) :
    (n = name ∧ a = value) ∨ (n ≠ name ∧ d.find? n = some a) := by
  rw [find?_put] at h
  by_cases hn : n = name
  · rw [if_pos hn] at h
    exact Or.inl ⟨hn, (Option.some.inj h).symm⟩
  · rw [if_neg hn] at h
    exact Or.inr ⟨hn, h⟩

theorem find?_of_find?_remove {d : Directory α} {name n : String} {a : α}
    (h : (d.remove name).find? n = some a) : d.find? n = some a := by
  rw [find?_remove] at h
  split at h
  · cases h
  · exact h

/-- What is found under a name is an entry, and every entry is found. -/
theorem mem_entries_iff (d : Directory α) (name : String) (value : α) :
    (name, value) ∈ d.entries ↔ d.find? name = some value :=
  (findEntry_eq_some_iff d.nodup).symm

theorem nodup_entries (d : Directory α) : d.entries.Nodup :=
  List.Pairwise.of_map Prod.fst (fun _ _ h heq => h (congrArg Prod.fst heq)) d.nodup

/-- Directories with the same view have the same entries. -/
theorem perm_of_find?_eq {d e : Directory α} (h : ∀ name, d.find? name = e.find? name) :
    d.entries.Perm e.entries := by
  rw [List.perm_ext_iff_of_nodup d.nodup_entries e.nodup_entries]
  rintro ⟨name, value⟩
  rw [mem_entries_iff, mem_entries_iff, h name]

theorem size_eq_of_find?_eq {d e : Directory α} (h : ∀ name, d.find? name = e.find? name) :
    d.size = e.size :=
  (perm_of_find?_eq h).length_eq

/-! ## Keeping some of the entries -/

def keep (test : α → Bool) (d : Directory α) : Directory α where
  entries := d.entries.filter fun e => test e.2
  nodup := d.nodup.sublist (List.filter_sublist.map Prod.fst)

theorem find?_keep (test : α → Bool) (d : Directory α) (name : String) :
    (d.keep test).find? name = (d.find? name).filter test := by
  rw [Option.ext_iff]
  intro value
  rw [← mem_entries_iff, Option.filter_eq_some_iff, ← mem_entries_iff]
  exact List.mem_filter

/-! ## Sums over the entries -/

def total (weight : α → Nat) (d : Directory α) : Nat := (d.entries.map fun e => weight e.2).sum

theorem total_putEntry (weight : α → Nat) (name : String) (value : α)
    (entries : List (String × α)) :
    ((putEntry name value entries).map fun e => weight e.2).sum
        + (findEntry name entries).elim 0 weight
      = (entries.map fun e => weight e.2).sum + weight value := by
  induction entries with
  | nil => simp [putEntry, findEntry]
  | cons e rest ih =>
      obtain ⟨n, v⟩ := e
      by_cases hn : n = name
      · simp only [putEntry, findEntry, hn, if_true, List.map_cons, List.sum_cons, Option.elim_some]
        omega
      · simp only [putEntry, findEntry, hn, if_false, List.map_cons, List.sum_cons]
        omega

/-- Giving a name a value takes away what it had and adds what it gets. -/
theorem total_put (weight : α → Nat) (d : Directory α) (name : String) (value : α) :
    (d.put name value).total weight + (d.find? name).elim 0 weight
      = d.total weight + weight value :=
  total_putEntry weight name value d.entries

/-- Removing a name that weighs nothing changes nothing. -/
theorem total_remove {weight : α → Nat} {d : Directory α} {name : String} {value : α}
    (h : d.find? name = some value) (hzero : weight value = 0) :
    (d.remove name).total weight = d.total weight := by
  have hall : ∀ e ∈ d.entries, e.1 = name → weight e.2 = 0 := by
    rintro ⟨n, v⟩ he rfl
    obtain rfl := Option.some.inj (((d.mem_entries_iff n v).mp he).symm.trans h)
    exact hzero
  simp only [total, remove, removeEntry]
  generalize d.entries = entries at hall
  induction entries with
  | nil => rfl
  | cons e rest ih =>
      have hrest := ih fun e he => hall e (List.mem_cons_of_mem _ he)
      by_cases hn : e.1 = name
      · rw [List.filter_cons_of_neg (by simp [hn]), hrest, List.map_cons, List.sum_cons,
          hall e List.mem_cons_self hn, Nat.zero_add]
      · rw [List.filter_cons_of_pos (by simp [hn]), List.map_cons, List.sum_cons, List.map_cons,
          List.sum_cons, hrest]

end Directory

end FormLease
