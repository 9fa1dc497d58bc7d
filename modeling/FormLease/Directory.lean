/-!
# Directories

Finite maps from names, in the order in which the names first came. No
name stands twice, and the type says so. `find?` is the view through
which everything else is stated: `put` and `remove` change it at their
own name and nowhere else.
-/

namespace FormLease

namespace Directory

variable {α : Type}

/-- The value that stands first under `name`. -/
def findEntry (name : String) : List (String × α) → Option α
  | [] => none
  | (n, v) :: rest => if n = name then some v else findEntry name rest

/-- The entries after giving `name` a value, in its old place if it had
one. -/
def putEntry (name : String) (value : α) : List (String × α) → List (String × α)
  | [] => [(name, value)]
  | (n, v) :: rest =>
    if n = name then (name, value) :: rest else (n, v) :: putEntry name value rest

def removeEntry (name : String) (entries : List (String × α)) : List (String × α) :=
  entries.filter fun e => e.1 ≠ name

theorem mem_putEntry_fst {name n : String} {value : α} {entries : List (String × α)}
    (h : n ∈ (putEntry name value entries).map Prod.fst) :
    n = name ∨ n ∈ entries.map Prod.fst := by
  induction entries with
  | nil => simpa [putEntry] using h
  | cons e rest ih =>
    by_cases he : e.1 = name
    · simp only [putEntry, he, if_true, List.map_cons, List.mem_cons] at h
      rcases h with h | h
      · exact .inl h
      · exact .inr (by simp [h])
    · simp only [putEntry, he, if_false, List.map_cons, List.mem_cons] at h
      rcases h with h | h
      · exact .inr (by simp [h])
      · rcases ih h with h | h
        · exact .inl h
        · exact .inr (by simp [h])

theorem nodup_putEntry {name : String} {value : α} {entries : List (String × α)}
    (h : (entries.map Prod.fst).Nodup) : ((putEntry name value entries).map Prod.fst).Nodup := by
  induction entries with
  | nil => simp [putEntry]
  | cons e rest ih =>
    rw [List.map_cons, List.nodup_cons] at h
    by_cases he : e.1 = name
    · simp only [putEntry, he, if_true, List.map_cons, List.nodup_cons]
      exact ⟨he ▸ h.1, h.2⟩
    · simp only [putEntry, he, if_false, List.map_cons, List.nodup_cons]
      refine ⟨fun hm => ?_, ih h.2⟩
      rcases mem_putEntry_fst hm with hn | hn
      · exact he hn
      · exact h.1 hn

theorem nodup_removeEntry {name : String} {entries : List (String × α)}
    (h : (entries.map Prod.fst).Nodup) : ((removeEntry name entries).map Prod.fst).Nodup :=
  h.sublist (List.Sublist.map _ List.filter_sublist)

end Directory

structure Directory (α : Type) where
  entries : List (String × α)
  nodup : (entries.map Prod.fst).Nodup

namespace Directory

variable {α : Type}

def empty : Directory α := ⟨[], List.nodup_nil⟩

instance : Inhabited (Directory α) := ⟨empty⟩

def find? (d : Directory α) (name : String) : Option α := findEntry name d.entries

def put (d : Directory α) (name : String) (value : α) : Directory α :=
  ⟨putEntry name value d.entries, nodup_putEntry d.nodup⟩

def remove (d : Directory α) (name : String) : Directory α :=
  ⟨removeEntry name d.entries, nodup_removeEntry d.nodup⟩

def size (d : Directory α) : Nat := d.entries.length

@[simp] theorem find?_empty (name : String) : (empty : Directory α).find? name = none := rfl

theorem findEntry_putEntry (name n : String) (value : α) (entries : List (String × α)) :
    findEntry n (putEntry name value entries) =
      if n = name then some value else findEntry n entries := by
  induction entries with
  | nil => simp [putEntry, findEntry, eq_comm]
  | cons e rest ih =>
    obtain ⟨k, v⟩ := e
    by_cases hk : k = name
    · by_cases h : n = name
      · simp [putEntry, findEntry, hk, h]
      · have : ¬ name = n := fun hh => h hh.symm
        simp [putEntry, findEntry, hk, h, this]
    · by_cases hn : k = n
      · have : ¬ n = name := fun hh => hk (hn.trans hh)
        simp [putEntry, findEntry, hn, this]
      · simp [putEntry, findEntry, hk, hn, ih]

/-- Giving a name a value changes the view at that name only. -/
theorem find?_put (d : Directory α) (name n : String) (value : α) :
    (d.put name value).find? n = if n = name then some value else d.find? n :=
  findEntry_putEntry name n value d.entries

theorem findEntry_removeEntry (name n : String) (entries : List (String × α)) :
    findEntry n (removeEntry name entries) = if n = name then none else findEntry n entries := by
  induction entries with
  | nil => simp [removeEntry, findEntry]
  | cons e rest ih =>
    obtain ⟨k, v⟩ := e
    rw [removeEntry] at ih
    by_cases hk : k = name
    · by_cases h : n = name
      · simpa [removeEntry, findEntry, hk, h] using ih
      · have : ¬ name = n := fun hh => h hh.symm
        simpa [removeEntry, findEntry, hk, h, this] using ih
    · by_cases hn : k = n
      · have : ¬ n = name := fun hh => hk (hn.trans hh)
        simp [removeEntry, findEntry, hn, this]
      · simpa [removeEntry, findEntry, hk, hn] using ih

/-- Removing a name changes the view at that name only. -/
theorem find?_remove (d : Directory α) (name n : String) :
    (d.remove name).find? n = if n = name then none else d.find? n :=
  findEntry_removeEntry name n d.entries

end Directory

end FormLease
