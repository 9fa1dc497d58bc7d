import FormLease.Settings.KeyPath

/-!
# What layers say about a path

Settings are put together by laying trees over one another, at key paths
and entry by entry, and what is left at a path in the end is hard to see
from that. It is simple where everybody agrees on the shape: whatever has
something to say about the beginnings of the path has a table there, and
nobody has a table at its end (`fits`). Then a layer either mentions the
path or leaves it alone, the last mention is what stands there
(`Over.at?`), and the shape is kept (`Over.fits`), so that the next layer
finds it again.

The proofs go along the path. `merge` and `alter` do the same on the way:
they take the table that is there, or an empty one, and put something in
at one key. What that does to the path is said once, for the entries of
the table (`EntriesOver`).
-/

namespace FormLease.Settings

namespace Tree

/-- What stands at the end of a path of keys. -/
def at? : List String → Tree → Option Tree
  | [], t => some t
  | key :: path, t => (findIn key t.asTable.1).bind (at? path)

/-- All that a tree has to say about a path. -/
def mentions : List String → Tree → List Tree
  | [], t => [t]
  | key :: path, .table entries _ =>
    entries.flatMap fun e => if e.1 = key then mentions path e.2 else []
  | _ :: _, _ => []

/-- The tree has tables where the path goes on and none where it ends. -/
def fits : List String → Tree → Bool
  | [], .table _ _ => false
  | [], _ => true
  | key :: path, .table entries _ => entries.all fun e => decide (e.1 ≠ key) || fits path e.2
  | _ :: _, _ => false

/-- So have the entries under a key with the rest of the path. -/
def fitEntries (key : String) (path : List String) (entries : List (String × Tree)) : Bool :=
  entries.all fun e => decide (e.1 ≠ key) || fits path e.2

/-! ## Entries of a table -/

section Entries

variable {key name : String} {path : List String} {entries base mid new : List (String × Tree)}
  {t : Tree} {o : Option Tree} {said said' : List Tree}

theorem findIn_putIn (name key : String) (t : Tree) (entries : List (String × Tree)) :
    findIn key (putIn name t entries) = if key = name then some t else findIn key entries := by
  induction entries with
  | nil => simp only [putIn, findIn, eq_comm]
  | cons e rest ih =>
      obtain ⟨k, u⟩ := e
      by_cases hk : k = name
      · subst hk
        by_cases hkey : key = k
        · simp [putIn, findIn, hkey]
        · simp [putIn, findIn, hkey, Ne.symm hkey]
      · by_cases hkey : k = key
        · subst hkey
          simp [putIn, findIn, hk]
        · simp [putIn, findIn, hk, hkey, ih]

theorem mem_putIn {e : String × Tree} (h : e ∈ putIn name t entries) :
    e = (name, t) ∨ e ∈ entries := by
  induction entries with
  | nil => exact Or.inl (List.mem_singleton.mp h)
  | cons e' rest ih =>
      obtain ⟨k, u⟩ := e'
      unfold putIn at h
      split at h
      · next hk =>
          rcases List.mem_cons.mp h with rfl | h
          · exact Or.inl (by rw [hk])
          · exact Or.inr (List.mem_cons_of_mem _ h)
      · rcases List.mem_cons.mp h with rfl | h
        · exact Or.inr List.mem_cons_self
        · exact (ih h).imp_right (List.mem_cons_of_mem _)

theorem fitEntries_iff : fitEntries key path entries = true
    ↔ ∀ e ∈ entries, e.1 = key → e.2.fits path = true := by
  simp only [fitEntries, List.all_eq_true, Bool.or_eq_true, decide_eq_true_eq, ne_eq,
    Decidable.imp_iff_not_or]

theorem fitEntries_putIn (h : fitEntries key path entries = true)
    (ht : name = key → t.fits path = true) : fitEntries key path (putIn name t entries) = true := by
  rw [fitEntries_iff] at h ⊢
  intro e he hkey
  rcases mem_putIn he with rfl | he
  · exact ht hkey
  · exact h e he hkey

theorem mem_of_findIn (h : findIn key entries = some t) : (key, t) ∈ entries := by
  induction entries with
  | nil => cases h
  | cons e rest ih =>
      obtain ⟨k, u⟩ := e
      unfold findIn at h
      split at h
      · next hk =>
          obtain rfl := Option.some.inj h
          rw [hk]
          exact List.mem_cons_self
      · exact List.mem_cons_of_mem _ (ih h)

theorem fits_findIn (h : fitEntries key path entries = true) :
    (findIn key entries).all (fits path) = true := by
  cases hfound : findIn key entries with
  | none => rfl
  | some t => exact fitEntries_iff.mp h _ (mem_of_findIn hfound) rfl

theorem fitEntries_asTable (h : o.all (fits (key :: path)) = true) :
    fitEntries key path (o.getD unit).asTable.1 = true := by
  match o with
  | none => rfl
  | some (.table entries origin) => exact h
  | some (.leaf _ _) => cases h
  | some (.list _ _) => cases h

/-! ## What is laid over what -/

/-- `new` has been laid over `o`, with `said` about the path. -/
structure Over (path : List String) (o : Option Tree) (said : List Tree) (new : Tree) : Prop where
  fits : new.fits path = true
  at? : new.at? path = said.getLast?.or (o.bind (at? path))

/-- Likewise for the entries of a table. -/
structure EntriesOver (key : String) (path : List String) (base : List (String × Tree))
    (said : List Tree) (new : List (String × Tree)) : Prop where
  fits : fitEntries key path new = true
  found : (findIn key new).bind (at? path) = said.getLast?.or ((findIn key base).bind (at? path))

theorem Over.trans {mid new : Tree} (h : Over path o said mid)
    (h' : Over path (some mid) said' new) : Over path o (said ++ said') new where
  fits := h'.fits
  at? := by
    rw [h'.at?, Option.bind_some, h.at?, List.getLast?_append, Option.or_assoc]

theorem EntriesOver.refl (h : fitEntries key path base = true) :
    EntriesOver key path base [] base := ⟨h, rfl⟩

theorem EntriesOver.trans (h : EntriesOver key path base said mid)
    (h' : EntriesOver key path mid said' new) : EntriesOver key path base (said ++ said') new where
  fits := h'.fits
  found := by rw [h'.found, h.found, List.getLast?_append, Option.or_assoc]

theorem EntriesOver.table (h : EntriesOver key path (o.getD unit).asTable.1 said new)
    (origin : Option String) : Over (key :: path) o said (.table new origin) where
  fits := h.fits
  at? := by
    rw [show (Tree.table new origin).at? (key :: path) = (findIn key new).bind (at? path) from rfl,
      h.found]
    cases o <;> rfl

theorem entriesOver_putIn (hbase : fitEntries key path base = true)
    (h : name = key → Over path (findIn key base) said t) :
    EntriesOver key path base (if name = key then said else []) (putIn name t base) := by
  refine ⟨fitEntries_putIn hbase fun hname => (h hname).fits, ?_⟩
  rw [findIn_putIn]
  by_cases hname : name = key
  · rw [if_pos hname.symm, if_pos hname, Option.bind_some, (h hname).at?]
  · rw [if_neg (Ne.symm hname), if_neg hname]
    rfl

end Entries

/-! ## Laying a tree over another -/

/-- Entries laid over entries, given how it is with their values. -/
theorem entriesOver_mergeEntries {key : String} {path : List String}
    (hvalues : ∀ {o : Option Tree} {t : Tree}, t.fits path = true → o.all (fits path) = true →
      Over path o (t.mentions path) (merge (o.getD unit) t))
    {base entries : List (String × Tree)} (hbase : fitEntries key path base = true)
    (hentries : fitEntries key path entries = true) :
    EntriesOver key path base
      (entries.flatMap fun e => if e.1 = key then mentions path e.2 else [])
      (mergeEntries base entries) := by
  induction entries generalizing base with
  | nil => exact .refl hbase
  | cons e rest ih =>
      obtain ⟨name, value⟩ := e
      rw [fitEntries_iff] at hentries
      have hput : EntriesOver key path base (if name = key then value.mentions path else [])
          (putIn name (merge ((findIn name base).getD unit) value) base) := by
        refine entriesOver_putIn hbase fun hname => ?_
        rw [hname]
        exact hvalues (hentries _ List.mem_cons_self hname) (fits_findIn hbase)
      have hrest := ih hput.fits
        (fitEntries_iff.mpr fun e he => hentries e (List.mem_cons_of_mem _ he))
      rw [List.flatMap_cons, mergeEntries]
      exact hput.trans hrest

/-- A tree laid over what is there, if there is anything. -/
theorem over_merge {path : List String} {o : Option Tree} {t : Tree} (ht : t.fits path = true)
    (ho : o.all (fits path) = true) : Over path o (t.mentions path) (merge (o.getD unit) t) := by
  induction path generalizing o t with
  | nil =>
      cases t with
      | table entries origin => cases ht
      | leaf value origin => exact ⟨rfl, rfl⟩
      | list items origin => exact ⟨rfl, rfl⟩
  | cons key path ih =>
      cases t with
      | leaf value origin => cases ht
      | list items origin => cases ht
      | table entries origin =>
          rw [merge, mentions]
          exact (entriesOver_mergeEntries ih (fitEntries_asTable ho) ht).table _

/-! ## Laying a value at the end of steps -/

/-- What a value at the end of some steps has to say about a path. -/
def mentionsAt (value : Tree) : List KeyPath.Step → List String → List Tree
  | [], path => value.mentions path
  | .key name :: steps, key :: path => if name = key then mentionsAt value steps path else []
  | _, _ => []

/-- The steps and the value agree with the shape of the path. -/
def fitsAt (value : Tree) : List KeyPath.Step → List String → Bool
  | [], path => value.fits path
  | .key name :: steps, key :: path => decide (name ≠ key) || fitsAt value steps path
  | _, _ => false

theorem over_alter {value : Tree} {steps : List KeyPath.Step} {path : List String}
    {o : Option Tree} (hvalue : fitsAt value steps path = true)
    (ho : o.all (fits path) = true) :
    Over path o (mentionsAt value steps path) (alter (merge · value) steps (o.getD unit)) := by
  induction steps generalizing path o with
  | nil => exact over_merge hvalue ho
  | cons step steps ih =>
      cases step with
      | index i => cases hvalue
      | key name =>
          cases path with
          | nil => cases hvalue
          | cons key path =>
              have hbase := fitEntries_asTable ho
              refine EntriesOver.table (entriesOver_putIn hbase fun hname => ?_) _
              rw [hname]
              refine ih ?_ (fits_findIn hbase)
              simpa [fitsAt, hname] using hvalue

end Tree

/-! ## Layers -/

/-- Settings by name, as a layer gives them. -/
abbrev Source := List (String × Tree)

namespace Source

/-- The steps that a name stands for. -/
def route (name : String) : List KeyPath.Step :=
  .key (KeyPath.ofName name).root :: (KeyPath.ofName name).steps

/-- All that a layer has to say about a path. -/
def mentions (path : List String) (source : Source) : List Tree :=
  source.flatMap fun e => e.2.mentionsAt (route e.1) path

def fits (path : List String) (source : Source) : Bool :=
  source.all fun e => e.2.fitsAt (route e.1) path

theorem mentions_append (path : List String) (s s' : Source) :
    mentions path (s ++ s') = mentions path s ++ mentions path s' := List.flatMap_append

theorem fits_append (path : List String) (s s' : Source) :
    fits path (s ++ s') = (fits path s && fits path s') := List.all_append

/-- A layer laid over a tree, name by name: its last mention of a path
decides what stands there. -/
theorem over_overlay {path : List String} {source : Source} (hsource : source.fits path = true)
    {t : Tree} (ht : t.fits path = true) :
    Tree.Over path (some t) (source.mentions path) (t.overlay source) := by
  induction source generalizing t with
  | nil => exact ⟨ht, rfl⟩
  | cons e rest ih =>
      obtain ⟨hvalue, hrest⟩ := Bool.and_eq_true_iff.mp hsource
      have hput : Tree.Over path (some t) (e.2.mentionsAt (route e.1) path)
          (t.put (KeyPath.ofName e.1) e.2) := Tree.over_alter hvalue ht
      exact hput.trans (ih hrest hput.fits)

end Source

end FormLease.Settings
