import FormLease.LeaseTable

/-!
# What a visit does to a table

A claim either puts a lease on its key or leaves the table as it was, and
which of the two depends on one thing only: whether the lease that the
key has, if any, is still running (`Free`). A release removes the lease
on its key or leaves the table as it was, and there the clock does not
matter. `claim_cases` and `release_cases` say all of it; after them no
proof looks inside `claim` or `release` again.
-/

namespace FormLease

namespace LeaseTable

/-- No lease on the key is running. -/
def Free (t : LeaseTable) (now : Moment) (key : String) : Prop :=
  ∀ lease, t.slots.find? key = some lease → lease.expiry ≤ now

theorem free_of_find?_eq_none {t : LeaseTable} {key : String} (now : Moment)
    (h : t.slots.find? key = none) : t.Free now key := by
  intro lease hlease
  rw [h] at hlease
  cases hlease

theorem not_free_of_running {t : LeaseTable} {now : Moment} {key : String} {lease : Lease}
    (h : t.slots.find? key = some lease) (running : now < lease.expiry) :
    ¬ t.Free now key := fun hfree =>
  Nat.not_le_of_lt running (hfree lease h)

theorem holder?_eq_none_iff {t : LeaseTable} {now : Moment} {key : String} :
    t.holder? now key = none ↔ t.Free now key := by
  rw [holder?, Option.map_eq_none_iff, Option.filter_eq_none_iff]
  simp only [Free, Lease.expired, Bool.not_eq_true', decide_eq_false_iff_not, Decidable.not_not]

def granting (t : LeaseTable) (now : Moment) (id key : String) (kind : LeaseKind) : LeaseTable :=
  ⟨t.slots.put key ⟨id, now + kind.term.nanos⟩⟩

theorem find?_granting (t : LeaseTable) (now : Moment) (id key : String) (kind : LeaseKind)
    (k : String) : (t.granting now id key kind).slots.find? k =
      if k = key then some ⟨id, now + kind.term.nanos⟩ else t.slots.find? k :=
  Directory.find?_put ..

def without (t : LeaseTable) (key : String) : LeaseTable := ⟨t.slots.remove key⟩

theorem find?_without (t : LeaseTable) (key k : String) :
    (t.without key).slots.find? k = if k = key then none else t.slots.find? k :=
  Directory.find?_remove ..

/-! ## Claims -/

theorem grant_cases (t : LeaseTable) (now : Moment) (id key : String) (kind : LeaseKind)
    (previous : Option String) :
    (now + kind.term.nanos < Moment.horizon
        ∧ t.grant now id key kind previous = (t.granting now id key kind, .granted previous))
      ∨ (Moment.horizon ≤ now + kind.term.nanos
        ∧ t.grant now id key kind previous = (t, .beyondHorizon previous)) := by
  unfold grant
  by_cases h : now + kind.term.nanos < Moment.horizon
  · exact Or.inl ⟨h, by rw [if_pos h]; rfl⟩
  · exact Or.inr ⟨Nat.le_of_not_lt h, by rw [if_neg h]⟩

/-- A free key is granted, whoever had it before, if the clock allows. -/
theorem claim_of_free {t : LeaseTable} {now : Moment} {key : String} (h : t.Free now key)
    (id : String) (kind : LeaseKind) :
    ∃ previous, t.claim now id key kind = t.grant now id key kind previous := by
  cases hslot : t.slots.find? key with
  | none => exact ⟨none, by simp only [claim, hslot]⟩
  | some lease =>
      have hexp : lease.expiry ≤ now := h lease hslot
      refine ⟨some lease.holder, ?_⟩
      simp only [claim, hslot, Lease.expired, hexp, decide_true, if_true]

theorem claim_of_not_free {t : LeaseTable} {now : Moment} {key : String} (h : ¬ t.Free now key)
    (id : String) (kind : LeaseKind) : t.claim now id key kind = (t, .busy) := by
  cases hslot : t.slots.find? key with
  | none => exact absurd (free_of_find?_eq_none now hslot) h
  | some lease =>
      have hrunning : ¬ lease.expiry ≤ now := fun hexp => h fun l hl => by
        obtain rfl := Option.some.inj (hslot.symm.trans hl)
        exact hexp
      simp [claim, hslot, Lease.expired, hrunning]

/-- Everything a claim can do. -/
theorem claim_cases (t : LeaseTable) (now : Moment) (id key : String) (kind : LeaseKind) :
    (t.Free now key ∧ now + kind.term.nanos < Moment.horizon
        ∧ ∃ previous, t.claim now id key kind
          = (t.granting now id key kind, .granted previous))
      ∨ (¬ t.Free now key ∧ t.claim now id key kind = (t, .busy))
      ∨ (t.Free now key ∧ Moment.horizon ≤ now + kind.term.nanos
        ∧ ∃ previous, t.claim now id key kind = (t, .beyondHorizon previous)) := by
  by_cases hfree : t.Free now key
  · obtain ⟨previous, hclaim⟩ := claim_of_free hfree id kind
    rcases t.grant_cases now id key kind previous with ⟨hroom, hgrant⟩ | ⟨hroom, hgrant⟩
    · exact Or.inl ⟨hfree, hroom, previous, hclaim.trans hgrant⟩
    · exact Or.inr (Or.inr ⟨hfree, hroom, previous, hclaim.trans hgrant⟩)
  · exact Or.inr (Or.inl ⟨hfree, claim_of_not_free hfree id kind⟩)

/-! ## Releases -/

/-- Everything a release can do. -/
theorem release_cases (t : LeaseTable) (id key : String) :
    (∃ lease, t.slots.find? key = some lease ∧ lease.holder = id
        ∧ t.release id key = (t.without key, true))
      ∨ ((∀ lease, t.slots.find? key = some lease → lease.holder ≠ id)
        ∧ t.release id key = (t, false)) := by
  cases hslot : t.slots.find? key with
  | none => exact Or.inr ⟨by simp, by simp [release, hslot]⟩
  | some lease =>
      by_cases hid : lease.holder = id
      · exact Or.inl ⟨lease, rfl, hid, by simp [release, hslot, hid, without]⟩
      · refine Or.inr ⟨fun l hl => ?_, by simp [release, hslot, hid]⟩
        obtain rfl := Option.some.inj hl
        exact hid

end LeaseTable

end FormLease
