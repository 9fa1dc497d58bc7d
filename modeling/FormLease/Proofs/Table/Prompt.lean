import FormLease.Proofs.Directory
import FormLease.Proofs.Table.Desk

/-!
# Leases that go when they run out

A lease table keeps a lease that has run out until somebody takes the key
over or the holder comes to release it. A `PromptDesk` is the desk that
one would rather think of: its directory holds running leases only, and a
lease leaves it at the moment of its expiry, one without a term at once.

The two desks are related by `Shows`: the prompt one holds exactly the
running leases of the other. `shows_serve` says that a visit keeps them so
related and which replies agree, which is all but one: the holder of a
lease that has run out and was not taken over is still told that it has
been released.
-/

namespace FormLease

open Desk (Request Reply)

/-- A desk that drops a lease when it runs out. -/
structure PromptDesk where
  now : Moment
  running : Directory Lease

namespace PromptDesk

def opened (now : Moment) : PromptDesk := ⟨now, Directory.empty⟩

/-- Drops every lease whose expiry the clock has reached. -/
def swept (p : PromptDesk) : PromptDesk :=
  { p with running := p.running.keep fun lease => !lease.expired p.now }

def serve (p : PromptDesk) : Request → PromptDesk × Reply
  | .claim id key kind =>
    match p.running.find? key with
    | none =>
      (swept { p with running := p.running.put key ⟨id, p.now + kind.term.nanos⟩ },
        .claimed true)
    | some _ => (p, .claimed false)
  | .release id key _ =>
    match p.running.find? key with
    | none => (p, .released false)
    | some lease =>
      if lease.holder = id then ({ p with running := p.running.remove key }, .released true)
      else (p, .released false)
  | .holder key => (p, .holder ((p.running.find? key).map Lease.holder))
  | .active => (p, .active p.running.size)
  | .pass time => (swept { p with now := p.now + time.nanos }, .passed)

def before (p : PromptDesk) (requests : List Request) (n : Nat) : PromptDesk :=
  stateBefore (fun p r => (p.serve r).1) p requests n

theorem before_succ {p : PromptDesk} {requests : List Request} {n : Nat} {r : Request}
    (h : requests[n]? = some r) :
    p.before requests (n + 1) = ((p.before requests n).serve r).1 :=
  stateBefore_succ _ p h

theorem before_of_end {p : PromptDesk} {requests : List Request} {n : Nat}
    (h : requests[n]? = none) : p.before requests (n + 1) = p.before requests n :=
  stateBefore_of_end _ p h

theorem find?_swept (p : PromptDesk) (key : String) :
    p.swept.running.find? key = (p.running.find? key).filter fun lease => !lease.expired p.now :=
  Directory.find?_keep ..

end PromptDesk

namespace Desk

def running? (d : Desk) (key : String) : Option Lease :=
  (d.lease? key).filter fun lease => !lease.expired d.now

theorem running?_eq_some_iff {d : Desk} {key : String} {lease : Lease} :
    d.running? key = some lease ↔ d.lease? key = some lease ∧ d.now < lease.expiry := by
  simp [running?, Option.filter_eq_some_iff, Lease.expired]

theorem running?_eq_none_iff {d : Desk} {key : String} :
    d.running? key = none ↔ d.table.Free d.now key := by
  rw [← LeaseTable.holder?_eq_none_iff, LeaseTable.holder?, Option.map_eq_none_iff]
  rfl

/-- The prompt desk holds the running leases, and reads the same clock. -/
structure Shows (d : Desk) (p : PromptDesk) : Prop where
  now : p.now = d.now
  running : ∀ key, p.running.find? key = d.running? key

theorem shows_opened (now : Moment) : Shows (opened now) (PromptDesk.opened now) :=
  ⟨rfl, fun _ => rfl⟩

/-! ## Visits -/

variable {d : Desk} {p : PromptDesk}

theorem shows_claim (h : d.Shows p) {id key : String} {kind : LeaseKind}
    (hroom : (d.serve (.claim id key kind)).2 ≠ .beyondHorizon) :
    (d.serve (.claim id key kind)).1.Shows (p.serve (.claim id key kind)).1
      ∧ (d.serve (.claim id key kind)).2 = (p.serve (.claim id key kind)).2 := by
  rcases d.serve_claim_cases id key kind with ⟨hfree, -, hd⟩ | ⟨hbusy, hd⟩ | ⟨-, -, hd⟩
  · have hp : p.running.find? key = none := (h.running key).trans (running?_eq_none_iff.mpr hfree)
    simp only [hd, PromptDesk.serve, hp, and_true]
    refine ⟨h.now, fun k => ?_⟩
    simp only [PromptDesk.find?_swept, Directory.find?_put, running?, lease?,
      LeaseTable.find?_granting, h.now]
    by_cases hk : k = key
    · rw [if_pos hk, if_pos hk]
    · rw [if_neg hk, if_neg hk, h.running k, running?, Option.filter_filter]
      simp [lease?]
  · cases hp : p.running.find? key with
    | none => exact absurd (running?_eq_none_iff.mp ((h.running key).symm.trans hp)) hbusy
    | some lease =>
        simp only [hd, PromptDesk.serve, hp, and_true]
        exact h
  · rw [hd] at hroom
    exact absurd rfl hroom

/-- A release tells the two desks apart in one case only. -/
theorem shows_release (h : d.Shows p) (id key : String) (kind : LeaseKind) :
    (d.serve (.release id key kind)).1.Shows (p.serve (.release id key kind)).1
      ∧ ((d.serve (.release id key kind)).2 = .released true ↔
        (p.serve (.release id key kind)).2 = .released true
          ∨ ∃ lease, d.lease? key = some lease ∧ lease.holder = id ∧ lease.expiry ≤ d.now) := by
  rcases d.serve_release_cases id key kind with ⟨lease, hslot, hid, hd⟩ | ⟨hother, hd⟩
  · have hview : ∀ k, (⟨d.now, d.table.without key⟩ : Desk).running? k
        = if k = key then none else d.running? k := by
      intro k
      simp only [running?, lease?, LeaseTable.find?_without]
      by_cases hk : k = key
      · rw [if_pos hk, if_pos hk]; rfl
      · rw [if_neg hk, if_neg hk]
    by_cases hrun : d.now < lease.expiry
    · -- the lease still runs, so both desks give it up
      have hp : p.running.find? key = some lease :=
        (h.running key).trans (running?_eq_some_iff.mpr ⟨hslot, hrun⟩)
      simp only [hd, PromptDesk.serve, hp, hid, if_true, true_or, and_true]
      exact ⟨h.now, fun k => by rw [Directory.find?_remove, h.running k, hview k]⟩
    · have hp : p.running.find? key = none := by
        rw [h.running key, running?_eq_none_iff]
        intro l hl
        obtain rfl := Option.some.inj (hslot.symm.trans hl)
        exact Nat.le_of_not_lt hrun
      simp only [hd, PromptDesk.serve, hp, true_iff]
      refine ⟨⟨h.now, fun k => ?_⟩, Or.inr ⟨lease, hslot, hid, Nat.le_of_not_lt hrun⟩⟩
      rw [hview k]
      by_cases hk : k = key
      · rw [if_pos hk, hk, hp]
      · rw [if_neg hk, h.running k]
  · have hp : p.serve (.release id key kind) = (p, .released false) := by
      cases hfind : p.running.find? key with
      | none => simp [PromptDesk.serve, hfind]
      | some lease =>
          have hslot := running?_eq_some_iff.mp ((h.running key).symm.trans hfind)
          simp [PromptDesk.serve, hfind, hother lease hslot.1]
    rw [hd, hp]
    refine ⟨h, by simp, ?_⟩
    rintro (hno | ⟨lease, hslot, hid, -⟩)
    · cases hno
    · exact absurd hid (hother lease hslot)

theorem active_eq (h : d.Shows p) : d.table.active d.now = p.running.size := by
  rw [LeaseTable.active, List.countP_eq_length_filter]
  refine Directory.size_eq_of_find?_eq
    (d := d.table.slots.keep fun lease => !lease.expired d.now) fun key => ?_
  rw [Directory.find?_keep, h.running key]
  rfl

theorem shows_pass (h : d.Shows p) (time : Span) :
    (d.serve (.pass time)).1.Shows (p.serve (.pass time)).1 := by
  refine ⟨congrArg (· + time.nanos) h.now, fun key => ?_⟩
  simp only [PromptDesk.serve, PromptDesk.find?_swept, h.running key, h.now, serve, running?]
  rw [Option.filter_filter]
  congr 1
  funext lease
  have hmono : lease.expiry ≤ d.now → lease.expiry ≤ d.now + time.nanos :=
    fun hle => Nat.le_trans hle (Nat.le_add_right ..)
  by_cases hexp : lease.expiry ≤ d.now
  · simp [Lease.expired, hexp, hmono hexp]
  · simp [Lease.expired, hexp]

/-- A visit keeps the desks related, and all replies but those to
releases are the same. -/
theorem shows_serve (h : d.Shows p) {r : Request} (hroom : (d.serve r).2 ≠ .beyondHorizon) :
    (d.serve r).1.Shows (p.serve r).1
      ∧ ((∀ id key kind, r ≠ .release id key kind) → (d.serve r).2 = (p.serve r).2) := by
  cases r with
  | claim id key kind =>
      obtain ⟨hshows, hreply⟩ := shows_claim h hroom
      exact ⟨hshows, fun _ => hreply⟩
  | release id key kind =>
      exact ⟨(shows_release h id key kind).1, fun hno => absurd rfl (hno id key kind)⟩
  | holder key =>
      refine ⟨h, fun _ => ?_⟩
      simp only [serve, PromptDesk.serve, h.running key]
      rfl
  | active => exact ⟨h, fun _ => congrArg Reply.active (active_eq h)⟩
  | pass time => exact ⟨shows_pass h time, fun _ => rfl⟩

/-! ## Runs -/

theorem reply_ne_beyondHorizon {now : Moment} {requests : List Request}
    (hroom : ∀ e ∈ (opened now).ledger requests, e.reply ≠ .beyondHorizon) {n : Nat}
    {r : Request} (hr : requests[n]? = some r) :
    (((opened now).before requests n).serve r).2 ≠ .beyondHorizon := by
  have hentry := getElem?_ledger (opened now) requests n
  rw [hr] at hentry
  exact hroom _ (List.mem_of_getElem? hentry)

/-- After any part of a run in which the clock has room for every lease
that is asked for, the desks are related. -/
theorem shows_before {now : Moment} {requests : List Request}
    (hroom : ∀ e ∈ (opened now).ledger requests, e.reply ≠ .beyondHorizon) :
    ∀ n, ((opened now).before requests n).Shows ((PromptDesk.opened now).before requests n)
  | 0 => shows_opened now
  | n + 1 => by
      have ih := shows_before hroom n
      cases hr : requests[n]? with
      | none => rwa [before_of_end hr, PromptDesk.before_of_end hr]
      | some r =>
          rw [before_succ hr, PromptDesk.before_succ hr]
          exact (shows_serve ih (reply_ne_beyondHorizon hroom hr)).1

/-- **Late expiry is prompt expiry.** Take any run from an empty table in
which the clock has room for every lease that is asked for. A prompt desk
that gets the same requests holds, after every part of the run, exactly
the leases that run at the desk. Every request but a release gets the
same reply from both. A release succeeds at the desk if and only if it
does at the prompt desk or the key still has the visitor's own lease, run
out and not taken over by anybody. -/
theorem prompt_expiry (now : Moment) (requests : List Request)
    (hroom : ∀ e ∈ (opened now).ledger requests, e.reply ≠ .beyondHorizon) :
    (∀ n, ((PromptDesk.opened now).before requests n).now
        = ((opened now).before requests n).now
      ∧ ∀ key, ((PromptDesk.opened now).before requests n).running.find? key
        = (((opened now).before requests n).table.slots.find? key).filter
          fun lease => !lease.expired ((opened now).before requests n).now)
    ∧ (∀ n r, requests[n]? = some r → (∀ id key kind, r ≠ .release id key kind) →
      (((opened now).before requests n).serve r).2
        = (((PromptDesk.opened now).before requests n).serve r).2)
    ∧ (∀ n id key kind, requests[n]? = some (.release id key kind) →
      ((((opened now).before requests n).serve (.release id key kind)).2 = .released true ↔
        (((PromptDesk.opened now).before requests n).serve (.release id key kind)).2
            = .released true
          ∨ ∃ lease, ((opened now).before requests n).table.slots.find? key = some lease
            ∧ lease.holder = id ∧ lease.expiry ≤ ((opened now).before requests n).now)) := by
  refine ⟨fun n => ?_, fun n r hr hno => ?_, fun n id key kind _ => ?_⟩
  · have h := shows_before hroom n
    exact ⟨h.now, h.running⟩
  · exact (shows_serve (shows_before hroom n) (reply_ne_beyondHorizon hroom hr)).2 hno
  · exact (shows_release (shows_before hroom n) id key kind).2

/-- A lease without a term, a stranger's release of it, and its holder's. -/
def lateRelease : List Request :=
  [.claim "a" "k" ⟨"BRIEF", Span.zero⟩, .release "b" "k" ⟨"BRIEF", Span.zero⟩,
    .release "a" "k" ⟨"BRIEF", Span.zero⟩]

/-- The holder of a lease that ran out is told that it has been released,
and at the prompt desk there is nothing to release. -/
theorem prompt_expiry_lateRelease :
    (∀ e ∈ (opened 0).ledger lateRelease, e.reply ≠ .beyondHorizon)
    ∧ lateRelease[2]? = some (.release "a" "k" ⟨"BRIEF", Span.zero⟩)
    ∧ (((PromptDesk.opened 0).before lateRelease 2).serve
        (.release "a" "k" ⟨"BRIEF", Span.zero⟩)).2 = .released false
    ∧ (((opened 0).before lateRelease 2).serve
        (.release "a" "k" ⟨"BRIEF", Span.zero⟩)).2 = .released true := by
  have hroom : ∀ e ∈ (opened 0).ledger lateRelease, e.reply ≠ .beyondHorizon := by
    decide +kernel
  refine ⟨hroom, rfl, by decide +kernel, ?_⟩
  refine ((prompt_expiry 0 lateRelease hroom).2.2 2 "a" "k" _ rfl).mpr (Or.inr ?_)
  exact ⟨⟨"a", 0⟩, by decide +kernel, rfl, by decide +kernel⟩

end Desk

end FormLease
