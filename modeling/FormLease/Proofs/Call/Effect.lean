import FormLease.Proofs.Call.SharedDesk

/-!
# What a call does to a desk that others use

All that a call itself does to the desk is done by one attempt that is not
turned down. For an acquire that is the first attempt at which the key has
no holder. For a release it is the first of all or none, because nobody
else puts a lease on the key in the claimant's name while it rests.
-/

namespace FormLease

/-- What comes of an acquire of `n + 1` attempts. -/
structure AcquireEffect (c : Claimant) (s : SharedDesk) (n : Nat) (e : Ending SharedDesk) :
    Prop where
  tries : n < c.policy.tries
  slept : ∀ i < n, (s.interlude i).result = .ok ()
  visits : e.surroundings.visits = s.visits ++ (List.range (n + 1)).map fun i =>
    (s.meanwhile i, .claim c.id c.key.text .modification)
  taken : ∀ i < n, (s.meanwhile i).table.holder? (s.meanwhile i).now c.key.text ≠ none
    ∧ (s.meanwhile i).serve (.claim c.id c.key.text .modification)
      = (s.meanwhile i, .claimed false)
  ok_iff : e.outcome = .ok () ↔
    ∃ i ≤ n, (s.meanwhile i).table.holder? (s.meanwhile i).now c.key.text = none
  granted : e.outcome = .ok () → e.surroundings.desk.now = (s.meanwhile n).now
    ∧ ∀ key, e.surroundings.desk.lease? key =
      if key = c.key.text then some ⟨c.id, (s.meanwhile n).now + (Span.ofSeconds 66).nanos⟩
      else (s.meanwhile n).lease? key
  failed : ∀ fault, e.outcome = .error fault →
    (fault = .timedOut c.id c.key.text ∧ n + 1 = c.policy.tries
        ∧ e.surroundings.desk = s.meanwhile n)
      ∨ ∃ text, fault = .storeFailed c.key.text (.interrupted text)
        ∧ (s.interlude n).result = .error text ∧ e.surroundings.desk = s.meanwhile (n + 1)

/-- What comes of a release of `n + 1` attempts. -/
structure ReleaseEffect (c : Claimant) (s : SharedDesk) (n : Nat) (e : Ending SharedDesk) :
    Prop where
  tries : n < c.policy.tries
  slept : ∀ i < n, (s.interlude i).result = .ok ()
  visits : e.surroundings.visits = s.visits ++ (List.range (n + 1)).map fun i =>
    (s.meanwhile i, .release c.id c.key.text .modification)
  outcome : e.outcome = .ok ()
  own : (∃ lease, s.desk.lease? c.key.text = some lease ∧ lease.holder = c.id) →
    n = 0 ∧ e.surroundings.desk.now = s.desk.now
      ∧ ∀ key, e.surroundings.desk.lease? key =
        if key = c.key.text then none else s.desk.lease? key
  other : (∀ lease, s.desk.lease? c.key.text = some lease → lease.holder ≠ c.id) →
    (∀ i ≤ n, (s.meanwhile i).serve (.release c.id c.key.text .modification)
        = (s.meanwhile i, .released false))
      ∧ ((n + 1 = c.policy.tries ∧ e.surroundings.desk = s.meanwhile n)
        ∨ ∃ text, (s.interlude n).result = .error text
          ∧ e.surroundings.desk = s.meanwhile (n + 1))

namespace SharedDesk

section Effects

variable {c : Claimant} {s : SharedDesk}

theorem acquire_effect (formed : c.Formed)
    (hroom : ∀ i < c.policy.tries,
      (s.meanwhile i).now + (Span.ofSeconds 66).nanos < Moment.horizon) :
    ∃ n, AcquireEffect c s n (c.perform .acquire surroundings s) := by
  obtain ⟨n, v, course, houtcome⟩ := course_perform c .acquire s
  rw [formed.kind, Errand.request] at course
  have hpos : 0 < c.policy.tries := c.policy.tries_pos
  have hn : n < c.policy.tries := by
    have hle := course.le
    omega
  have haccepts : ∀ i ≤ n, (s.meanwhile i).Accepts (.claim c.id c.key.text .modification) ↔
      (s.meanwhile i).table.holder? (s.meanwhile i).now c.key.text = none := fun i hi =>
    Desk.accepts_claim_iff (hroom i (Nat.lt_of_le_of_lt hi hn))
  have htaken : ∀ i < n,
      (s.meanwhile i).table.holder? (s.meanwhile i).now c.key.text ≠ none := fun i hi hfree =>
    (course.passed rfl i hi).1 ((haccepts i (Nat.le_of_lt hi)).mpr hfree)
  refine ⟨n, hn, fun i hi => (course.passed rfl i hi).2, course.visits rfl, ?_, ?_, ?_, ?_⟩
  · intro i hi
    refine ⟨htaken i hi, Desk.serve_claim_of_not_free (fun hfree => ?_) _ _⟩
    exact htaken i hi (LeaseTable.holder?_eq_none_iff.mpr hfree)
  all_goals rw [houtcome]
  · rw [Verdict.outcome_acquire_iff, ← course.accepts_iff rfl, haccepts n (Nat.le_refl n)]
    constructor
    · intro hfree
      exact ⟨n, Nat.le_refl n, hfree⟩
    · rintro ⟨i, hi, hfree⟩
      rcases Nat.lt_or_eq_of_le hi with hlt | rfl
      · exact absurd hfree (htaken i hlt)
      · exact hfree
  · intro hok
    obtain rfl := Verdict.outcome_acquire_iff.mp hok
    obtain ⟨yes, hdesk⟩ := course.closes rfl
    have hfree := LeaseTable.holder?_eq_none_iff.mp ((haccepts n (Nat.le_refl n)).mp yes)
    rw [hdesk, Desk.serve_claim_of_free hfree c.id (hroom n hn)]
    exact ⟨rfl, fun key => LeaseTable.find?_granting ..⟩
  · intro fault hfault
    have hcloses := course.closes rfl
    cases v with
    | granted => cases hfault
    | exhausted =>
        obtain ⟨-, hlast, hdesk⟩ := hcloses
        obtain rfl := Except.error.inj hfault
        exact Or.inl ⟨rfl, by omega, hdesk⟩
    | interrupted text =>
        obtain ⟨-, hcut, hdesk⟩ := hcloses
        obtain rfl := Except.error.inj hfault
        exact Or.inr ⟨text, rfl, hcut, hdesk⟩

theorem release_effect (formed : c.Formed)
    (hothers : ∀ i ∈ s.ahead, ∀ r ∈ i.requests, r.visitor? ≠ some c.id) :
    ∃ n, ReleaseEffect c s n (c.perform .release surroundings s) := by
  obtain ⟨n, v, course, houtcome⟩ := course_perform c .release s
  rw [formed.kind, Errand.request] at course
  have hpos : 0 < c.policy.tries := c.policy.tries_pos
  have hle : n ≤ c.policy.tries - 1 := course.le
  have hcloses := course.closes rfl
  refine ⟨n, by omega, fun i hi => (course.passed rfl i hi).2, course.visits rfl,
    houtcome.trans (Verdict.outcome_release c v), ?_, ?_⟩
  · rintro ⟨lease, hslot, hid⟩
    -- a lease of its own is given up at the first attempt
    have hfirst : s.desk.Accepts (.release c.id c.key.text .modification) :=
      Desk.accepts_release_iff.mpr ⟨lease, hslot, hid⟩
    obtain rfl : n = 0 := by
      rcases Nat.eq_zero_or_pos n with hzero | hpos
      · exact hzero
      · exact absurd hfirst (course.passed rfl 0 hpos).1
    obtain rfl : v = .granted := (course.accepts_iff rfl).mp hfirst
    rw [hcloses.2, meanwhile, Desk.serve_release_of_own hslot hid]
    exact ⟨rfl, rfl, fun key => LeaseTable.find?_without ..⟩
  · intro hother
    -- and nobody puts one there while the claimant rests
    have hnever : ∀ i lease, (s.meanwhile i).lease? c.key.text = some lease →
        lease.holder ≠ c.id := by
      intro i lease hlease hid
      rw [← hid] at hothers
      exact hother lease (lease?_of_meanwhile hothers i hlease) hid
    refine ⟨fun i _ => Desk.serve_release_of_other (hnever i), ?_⟩
    cases v with
    | granted =>
        obtain ⟨lease, hlease, hid⟩ := Desk.accepts_release_iff.mp hcloses.1
        exact absurd hid (hnever n lease hlease)
    | exhausted =>
        obtain ⟨-, hlast, hdesk⟩ := hcloses
        exact Or.inl ⟨by omega, hdesk⟩
    | interrupted text => exact Or.inr ⟨text, hcloses.2⟩

/-- **What a call does to a desk that others use.** Others may come and time
may pass in every backoff, and a backoff may be cut short. Let the clock
have room for a lease at each attempt, and nobody else use the claimant's
id. `s.meanwhile i` is the desk as it would be at the `i`-th attempt,
counted from zero, if the claimant had not come at all.

At every attempt the claimant finds that desk. An acquire succeeds if and
only if at one of its attempts the key has no holder, it stops at the first
one, and there it puts its lease on the key, for 66 seconds from then on. An
acquire that fails leaves the desk as if it had not come.

A release gives up the lease on the key if that is in the claimant's name,
and then at once. Otherwise it leaves the desk as if it had not come,
whoever takes the key in the meantime. -/
theorem call_effect (formed : c.Formed)
    (hroom : ∀ i < c.policy.tries,
      (s.meanwhile i).now + (Span.ofSeconds 66).nanos < Moment.horizon)
    (hothers : ∀ i ∈ s.ahead, ∀ r ∈ i.requests, r.visitor? ≠ some c.id) :
    (∃ n, AcquireEffect c s n (c.perform .acquire surroundings s))
    ∧ ∃ n, ReleaseEffect c s n (c.perform .release surroundings s) :=
  ⟨acquire_effect formed hroom, release_effect formed hothers⟩

end Effects

/-- The key is taken, and the lease runs out in the first backoff. -/
def overdue : SharedDesk where
  desk := (Desk.opened 0).after [.claim "b" "submission|f|00" .modification]
  ahead := [⟨[.pass (Span.ofSeconds 66)], .ok ()⟩]
  visits := []

/-- The second attempt of an acquire succeeds then, and a release leaves the
old lease where it is. -/
theorem call_effect_overdue :
    let c := Claimant.create ⟨"f", 0⟩ "a" "u" fun _ => 0
    (∀ i < c.policy.tries,
      (overdue.meanwhile i).now + (Span.ofSeconds 66).nanos < Moment.horizon)
    ∧ (∀ i ∈ overdue.ahead, ∀ r ∈ i.requests, r.visitor? ≠ some c.id)
    ∧ (c.perform .acquire surroundings overdue).outcome = .ok ()
    ∧ (c.perform .acquire surroundings overdue).surroundings.desk.lease? "submission|f|00"
      = some ⟨"a", (Span.ofSeconds 132).nanos⟩
    ∧ (c.perform .release surroundings overdue).surroundings.desk.lease? "submission|f|00"
      = some ⟨"b", (Span.ofSeconds 66).nanos⟩ := by
  intro c
  have hroom : ∀ i < c.policy.tries,
      (overdue.meanwhile i).now + (Span.ofSeconds 66).nanos < Moment.horizon := by
    decide +kernel
  have hothers : ∀ i ∈ overdue.ahead, ∀ r ∈ i.requests, r.visitor? ≠ some c.id := by
    decide +kernel
  obtain ⟨⟨n, acquired⟩, ⟨m, released⟩⟩ := call_effect (.create ..) hroom hothers
  have hslept : ∀ i, (overdue.interlude i).result = .ok () := by
    rintro (_ | i) <;> rfl
  have hfree : (overdue.meanwhile 1).table.holder? (overdue.meanwhile 1).now c.key.text = none := by
    decide +kernel
  have hn : n = 1 := by
    rcases Nat.lt_trichotomy n 1 with hlt | heq | hgt
    · obtain rfl : n = 0 := by omega
      cases houtcome : (c.perform .acquire surroundings overdue).outcome with
      | ok u =>
          obtain ⟨i, hi, hfirst⟩ := acquired.ok_iff.mp houtcome
          obtain rfl : i = 0 := by omega
          revert hfirst
          decide +kernel
      | error fault =>
          rcases acquired.failed fault houtcome with ⟨-, hlast, -⟩ | ⟨text, -, hcut, -⟩
          · cases hlast
          · cases (hslept 0).symm.trans hcut
    · exact heq
    · exact absurd hfree (acquired.taken 1 hgt).1
  subst hn
  have hok := acquired.ok_iff.mpr ⟨1, Nat.le_refl 1, hfree⟩
  refine ⟨hroom, hothers, hok, ?_, ?_⟩
  · exact ((acquired.granted hok).2 "submission|f|00").trans (by decide +kernel)
  · have hheld : overdue.desk.lease? c.key.text = some ⟨"b", (Span.ofSeconds 66).nanos⟩ := by
      decide +kernel
    have hother : ∀ lease, overdue.desk.lease? c.key.text = some lease → lease.holder ≠ c.id := by
      intro lease hlease
      obtain rfl := Option.some.inj (hheld.symm.trans hlease)
      decide
    rcases (released.other hother).2 with ⟨hlast, hdesk⟩ | ⟨text, hcut, -⟩
    · obtain rfl : m = 3 := Nat.succ.inj hlast
      rw [hdesk]
      decide +kernel
    · cases (hslept m).symm.trans hcut

end SharedDesk

end FormLease
