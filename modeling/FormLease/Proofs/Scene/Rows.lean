import FormLease.Proofs.Directory
import FormLease.Proofs.ResourceKey
import FormLease.Proofs.Scene.Chronicle
import Mathlib.Data.List.Dedup
import Mathlib.Data.List.Perm.Subperm

/-!
# How many slots a table can have

A table never clears a slot that has run out, so nothing in the table
bounds their number. What bounds it is where the keys come from. Claimants
go to the table with their own key only, and the key of a claimant is one
of the 256 of its form (`Stocked`). So the slots of a table that only
claimants use are among the texts of these keys, form by form, and no text
stands twice (`length_le_of_keys`). How many instances have been locked
and left does not matter, and neither do ids, answers and time: nothing is
asked of them here, other than in `Reached`.
-/

namespace FormLease

/-- The key is the key of a submission. -/
def Claimant.ForSubmission (c : Claimant) : Prop :=
  ∃ instanceId, ResourceKey.ofSubmission c.key.form instanceId = .ok c.key

/-! ## The keys of a form -/

namespace ResourceKey

/-- The texts of all the keys that a form has. -/
def textsOf (form : String) : List String :=
  (List.range bucketCount).map fun b => text ⟨form, UInt8.ofNat b⟩

theorem length_textsOf (form : String) : (textsOf form).length = 256 := by
  rw [textsOf, List.length_map, List.length_range]
  rfl

theorem text_mem_textsOf (k : ResourceKey) : k.text ∈ textsOf k.form :=
  List.mem_map.mpr ⟨k.bucket.toNat, List.mem_range.mpr k.bucket.toNat_lt, by rw [UInt8.ofNat_toNat]⟩

theorem mem_textsOf_of_read? {s form : String} (h : (read? s).map (·.form) = some form) :
    s ∈ textsOf form := by
  obtain ⟨k, hread, rfl⟩ := Option.map_eq_some_iff.mp h
  rw [read?_eq_some_iff.mp hread]
  exact text_mem_textsOf k

/-- Different texts of keys, over so many forms. -/
theorem length_le_of_keys {texts forms : List String} (hnodup : texts.Nodup)
    (hkeys : ∀ s ∈ texts, ∃ form ∈ forms, s ∈ textsOf form) :
    texts.length ≤ 256 * forms.length := by
  have hsub : texts ⊆ forms.flatMap textsOf := fun s hs => List.mem_flatMap.mpr (hkeys s hs)
  calc texts.length ≤ (forms.flatMap textsOf).length := (hnodup.subperm hsub).length_le
    _ = 256 * forms.length := by
      simp only [List.length_flatMap, length_textsOf, List.map_const', List.sum_replicate_nat,
        Nat.mul_comm]

end ResourceKey

/-- The slots whose key is a key of the form, run out or not. -/
def LeaseTable.slotsOf (t : LeaseTable) (form : String) : Nat :=
  t.slots.entries.countP fun e => decide ((ResourceKey.read? e.1).map (·.form) = some form)

namespace Chronicle

/-! ## Where the keys of slots come from -/

/-- All that is asked of a move here: whoever enters comes for a
submission, and nobody without a seat goes to the table. -/
def Admits : Move → Prop
  | .enter _ c => c.ForSubmission
  | .visit _ _ _ _ _ => False
  | _ => True

/-- Only claimants for submissions have been at the table, in whatever
order and whatever they were answered. -/
inductive ForSubmissions : Chronicle → Prop where
  | start : ForSubmissions start
  | move {h : Chronicle} {m : Move} {s : Scene} {seen : List Happening}
      (before : ForSubmissions h) (admitted : Admits m)
      (moved : h.scene.apply m = some (s, seen)) : ForSubmissions (h.extend m s seen)

theorem ForSubmissions.after {h : Chronicle} {m : Move} (before : h.ForSubmissions)
    (admitted : Admits m) : (h.after m).ForSubmissions := by
  unfold Chronicle.after
  split
  · next moved => exact before.move admitted moved
  · exact before

/-- Somebody with this key has entered. -/
def Keyed (h : Chronicle) (k : ResourceKey) : Prop := ∃ c ∈ h.entered, c.key = k

structure Stocked (h : Chronicle) : Prop where
  entered : ∀ c ∈ h.entered, c.ForSubmission
  seat : ∀ n a, h.scene.seats.find? n = some a → h.Keyed a.claimant.key
  slot : ∀ text lease, h.scene.table.slots.find? text = some lease →
    ∃ k, h.Keyed k ∧ k.text = text

theorem stocked_start : start.Stocked where
  entered := fun _ h => by cases h
  seat := fun _ _ h => by cases h
  slot := fun _ _ h => by cases h

/-- A visit puts nothing into the table but a slot for its own key. -/
theorem slot_of_consulted {s s' : Scene} {id key : String} {kind : LeaseKind} {errand : Errand}
    {scripted : Scripted} {seen : List Happening} {answer : Except LeaseFault Bool}
    (consulted : s.Consulted id key kind errand scripted s' seen answer) {text : String}
    {lease : Lease} (hslot : s'.table.slots.find? text = some lease) :
    text = key ∨ ∃ old, s.table.slots.find? text = some old := by
  cases consulted with
  | granted previous free =>
      rw [LeaseTable.find?_granting] at hslot
      by_cases htext : text = key
      · exact Or.inl htext
      · rw [if_neg htext] at hslot
        exact Or.inr ⟨lease, hslot⟩
  | released own holder =>
      rw [LeaseTable.find?_without] at hslot
      split at hslot
      · cases hslot
      · exact Or.inr ⟨lease, hslot⟩
  | scripted errand answer => exact Or.inr ⟨lease, hslot⟩
  | busy running => exact Or.inr ⟨lease, hslot⟩
  | rejected other => exact Or.inr ⟨lease, hslot⟩

section Changes

variable {h : Chronicle} {m : Move} {s : Scene} {seen : List Happening} {name : String} {a : Seat}

theorem Keyed.extend {k : ResourceKey} (hk : h.Keyed k) : (h.extend m s seen).Keyed k := by
  obtain ⟨c, hc, hkey⟩ := hk
  exact ⟨c, List.mem_append_right _ hc, hkey⟩

/-- One seat changes, and the table gets at most a slot for the key of
whoever has it. -/
theorem Stocked.seated (o : h.Stocked) (hentrants : ∀ c ∈ entrants m, c.ForSubmission)
    (hseats : s.seats = h.scene.seats.put name a)
    (hkey : (h.extend m s seen).Keyed a.claimant.key)
    (hslots : ∀ text lease, s.table.slots.find? text = some lease →
      text = a.claimant.key.text ∨ ∃ old, h.scene.table.slots.find? text = some old) :
    (h.extend m s seen).Stocked where
  entered := fun c hc => (List.mem_append.mp hc).elim (hentrants c) (o.entered c)
  seat := by
    intro n b hb
    have hput : (h.scene.seats.put name a).find? n = some b := hseats ▸ hb
    rcases Directory.find?_put_cases hput with ⟨-, rfl⟩ | ⟨-, hold⟩
    · exact hkey
    · exact (o.seat n b hold).extend
  slot := by
    intro text lease hslot
    rcases hslots text lease hslot with rfl | ⟨old, hold⟩
    · exact ⟨_, hkey, rfl⟩
    · obtain ⟨k, hk, htext⟩ := o.slot text old hold
      exact ⟨k, hk.extend, htext⟩

/-- A claimant takes a turn without going to the table. -/
theorem Stocked.settle (o : h.Stocked) (hentrants : entrants m = []) {c : Claimant}
    {activity : Activity} {errand errand' : Errand} {bracket : Bool} {t : Turn}
    (hseat : h.scene.seats.find? name = some ⟨c, activity⟩) (follows : t.Follows c errand') :
    (h.extend m (h.scene.settle name errand bracket t).1 seen).Stocked := by
  refine o.seated (by simp [hentrants]) rfl ?_ fun text lease hslot => Or.inr ⟨lease, hslot⟩
  rw [follows.key]
  exact (o.seat name _ hseat).extend

theorem stocked_extend (o : h.Stocked) (admitted : Admits m) (step : h.scene.Step m s seen) :
    (h.extend m s seen).Stocked := by
  cases step with
  | enter name c =>
      refine o.seated ?_ rfl ⟨c, List.mem_cons_self, rfl⟩ fun text lease hslot =>
        Or.inr ⟨lease, hslot⟩
      intro e he
      obtain rfl := List.mem_singleton.mp he
      exact admitted
  | @start name c errand seat => exact o.settle rfl seat (c.begin_follows errand)
  | @bracket name c seat => exact o.settle rfl seat (c.begin_follows .acquire)
  | @answer name c call bracket scripted s' seen' answer seat consulted =>
      have follows := c.answered_follows call answer
      have hkeyed : h.Keyed c.key := o.seat name _ seat
      refine o.seated (fun e he => by cases he)
        (congrArg (Directory.put · name _) consulted.seats) ?_ ?_
      · exact follows.key ▸ hkeyed.extend
      · intro text lease hslot
        rw [follows.key]
        exact slot_of_consulted consulted hslot
  | @wake name c call delay bracket result seat =>
      exact o.settle rfl seat (c.woken_follows call result)
  | @conclude name c seat => exact o.settle rfl seat (c.begin_follows .release)
  | @adopt name c policy draws seat =>
      exact o.seated (fun e he => by cases he) rfl (o.seat name _ seat).extend
        fun text lease hslot => Or.inr ⟨lease, hslot⟩
  | leave seat =>
      exact ⟨o.entered, fun n a ha => o.seat n a (Directory.find?_of_find?_remove ha), o.slot⟩
  | advance passed => exact ⟨o.entered, o.seat, o.slot⟩
  | visit consulted => exact admitted.elim

theorem stocked_of_run (run : h.ForSubmissions) : h.Stocked := by
  induction run with
  | start => exact stocked_start
  | move before admitted moved ih => exact stocked_extend ih admitted (Scene.step_of_apply moved)

end Changes

/-! ## Counting -/

/-- The forms of all who ever entered, each once. -/
def forms (h : Chronicle) : List String := (h.entered.map fun c => c.key.form).dedup

theorem Stocked.entry {h : Chronicle} (o : h.Stocked) {e : String × Lease}
    (he : e ∈ h.scene.table.slots.entries) : ∃ c ∈ h.entered, c.key.text = e.1 := by
  obtain ⟨_, ⟨c, hc, rfl⟩, htext⟩ :=
    o.slot e.1 e.2 ((Directory.mem_entries_iff _ e.1 e.2).mp he)
  exact ⟨c, hc, htext⟩

theorem mem_forms {h : Chronicle} {c : Claimant} (hc : c ∈ h.entered) : c.key.form ∈ h.forms :=
  List.mem_dedup.mpr (List.mem_map.mpr ⟨c, hc, rfl⟩)

theorem Stocked.size_le {h : Chronicle} (o : h.Stocked) :
    h.scene.table.slots.size ≤ 256 * h.forms.length := by
  rw [Directory.size, ← List.length_map (f := Prod.fst)]
  refine ResourceKey.length_le_of_keys h.scene.table.slots.nodup fun text htext => ?_
  obtain ⟨e, he, rfl⟩ := List.mem_map.mp htext
  obtain ⟨c, hc, heq⟩ := o.entry he
  exact ⟨c.key.form, mem_forms hc, heq ▸ c.key.text_mem_textsOf⟩

theorem slotsOf_le (t : LeaseTable) (form : String) : t.slotsOf form ≤ 256 := by
  let named : String × Lease → Bool := fun e =>
    decide ((ResourceKey.read? e.1).map (·.form) = some form)
  have hnodup : ((t.slots.entries.filter named).map Prod.fst).Nodup :=
    t.slots.nodup.sublist (List.filter_sublist.map Prod.fst)
  have hsub : (t.slots.entries.filter named).map Prod.fst ⊆ ResourceKey.textsOf form := by
    intro text htext
    obtain ⟨e, he, rfl⟩ := List.mem_map.mp htext
    exact ResourceKey.mem_textsOf_of_read? (of_decide_eq_true (List.mem_filter.mp he).2)
  calc t.slotsOf form = ((t.slots.entries.filter named).map Prod.fst).length := by
        rw [LeaseTable.slotsOf, List.countP_eq_length_filter, List.length_map]
    _ ≤ (ResourceKey.textsOf form).length := (hnodup.subperm hsub).length_le
    _ = 256 := ResourceKey.length_textsOf form

/-- **The slots of a table are bounded by the forms.** Let only claimants
for submissions use a table: any number of them, with any ids and answers,
moving in any order while time passes and calls fail. Then, however many
instances have been locked and left without a release:

no key has two slots, and every slot, run out or not, has the key that a
claimant that entered got from its form and the id of an instance;

each form has at most 256 slots, and a form that nobody came for has none;

so there are never more than 256 slots for each form that somebody came
for, and never more running leases. -/
theorem slots_bounded {h : Chronicle} (run : h.ForSubmissions) :
    (∀ key, h.scene.table.slots.entries.countP (fun e => e.1 == key) ≤ 1)
    ∧ (∀ e ∈ h.scene.table.slots.entries, ∃ c ∈ h.entered, ∃ instanceId,
      ResourceKey.ofSubmission c.key.form instanceId = .ok c.key ∧ e.1 = c.key.text)
    ∧ (∀ form, h.scene.table.slotsOf form ≤ 256)
    ∧ (∀ form, form ∉ h.forms → h.scene.table.slotsOf form = 0)
    ∧ h.scene.table.slots.size ≤ 256 * h.forms.length
    ∧ h.scene.table.active h.scene.now ≤ 256 * h.forms.length := by
  have o := stocked_of_run run
  refine ⟨fun key => ?_, fun e he => ?_, slotsOf_le _, fun form hform => ?_, o.size_le, ?_⟩
  · have hcount := List.nodup_iff_count_le_one.mp h.scene.table.slots.nodup key
    rwa [List.count, List.countP_map] at hcount
  · obtain ⟨c, hc, heq⟩ := o.entry he
    obtain ⟨instanceId, hkey⟩ := o.entered c hc
    exact ⟨c, hc, instanceId, hkey, heq.symm⟩
  · refine List.countP_eq_zero.mpr fun e he => ?_
    obtain ⟨c, hc, heq⟩ := o.entry he
    have hread : ResourceKey.read? e.1 = some c.key := ResourceKey.read?_eq_some_iff.mpr heq.symm
    simp only [hread, Option.map_some, Option.some.injEq, decide_eq_true_eq]
    rintro rfl
    exact hform (mem_forms hc)
  · exact Nat.le_trans List.countP_le_length o.size_le

/-- A claimant goes away holding, its lease runs out, and another comes for
another form. -/
def abandoned : Chronicle :=
  let a := Claimant.create ⟨"f", 0x11⟩ "a" "u" fun _ => 0
  let b := Claimant.create ⟨"g", 0x11⟩ "b" "u" fun _ => 0
  start.after (.enter "x" a) |>.after (.start "x" .acquire) |>.after (.answer "x" none)
    |>.after (.leave "x") |>.after (.advance (Span.ofSeconds 67))
    |>.after (.enter "y" b) |>.after (.start "y" .acquire) |>.after (.answer "y" none)

theorem slots_bounded_abandoned :
    abandoned.ForSubmissions
    ∧ abandoned.scene.table.slots.size = 2 ∧ abandoned.scene.table.active abandoned.scene.now = 1
    ∧ abandoned.forms = ["g", "f"]
    ∧ abandoned.scene.table.slots.size ≤ 256 * abandoned.forms.length := by
  have hkey : ∀ form, ResourceKey.ofSubmission form "uuid:1234" = .ok ⟨form, 0x11⟩ := by
    intro form
    rw [ResourceKey.ofSubmission_eq_ok (by decide),
      show ResourceKey.bucketOf "uuid:1234" = 0x11 by decide +kernel]
  have run : abandoned.ForSubmissions := by
    unfold abandoned
    refine (((((((ForSubmissions.start.after ?_).after ?_).after ?_).after ?_).after
      ?_).after ?_).after ?_).after ?_
    · exact ⟨"uuid:1234", hkey "f"⟩
    case refine_6 => exact ⟨"uuid:1234", hkey "g"⟩
    all_goals trivial
  exact ⟨run, by decide +kernel, by decide +kernel, by decide +kernel,
    (slots_bounded run).2.2.2.2.1⟩

end Chronicle

end FormLease
