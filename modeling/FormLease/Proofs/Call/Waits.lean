import FormLease.Proofs.Call.Trace
import FormLease.Proofs.Call.Turn

/-!
# The waits of a call

A call that is turned down rests as its claimant's backoff says, in order
and without leaving anything out: its delays are the first ones of
`Backoff.schedule`, as many as there were backoffs, and the backoff is
then where the schedule stopped (`waits_perform`). There is one backoff
less than there are attempts, and surroundings that turn everything down
bring it to all of them.

`Claimant.Formed` are the claimants that come up: created, put under
another policy, and taken through any parts of calls. Their backoff
always starts from the first bound of their policy.
-/

namespace FormLease

namespace Backoff

def schedule (b : Backoff) : Nat → List Span
  | 0 => []
  | n + 1 => b.next.1 :: b.next.2.schedule n

def later (b : Backoff) : Nat → Backoff
  | 0 => b
  | n + 1 => b.next.2.later n

end Backoff

def Contact.delay? : Contact → Option Span
  | .rested delay _ => some delay
  | _ => none

def waits (contacts : List Contact) : List Span := contacts.filterMap Contact.delay?

theorem waits_append (before after : List Contact) :
    waits (before ++ after) = waits before ++ waits after :=
  List.filterMap_append

theorem waits_told (t : Turn) : waits t.told = [] := by
  simp only [waits, Turn.told, List.filterMap_map, List.filterMap_eq_nil_iff]
  intro event _
  rfl

/-- Everything is turned down, and no backoff is cut short. -/
def Surroundings.Refuses {σ : Type} (w : Surroundings σ) : Prop :=
  (∀ errand id key kind s, (w.ask errand id key kind s).1 = .ok false)
    ∧ ∀ delay s, (w.rest delay s).1 = .ok ()

/-! ## What a turn does to the backoff -/

namespace Progress

/-- The delay that has been drawn and not been waited for. -/
def pending : Progress → List Span
  | .sleeping _ delay => [delay]
  | _ => []

/-- How many backoffs can still be begun. -/
def room : Progress → Nat
  | .asking call => call.left
  | .sleeping call _ => call.left - 1
  | .ended _ => 0

end Progress

/-- The claimant's backoff is `b`, and no delay waits to be waited for. -/
structure Turn.Settled (t : Turn) (b : Backoff) : Prop where
  pending : t.progress.pending = []
  backoff : t.claimant.backoff = b

/-- A delay was drawn from the backoff `b`. -/
structure Turn.Draws (t : Turn) (b : Backoff) : Prop where
  pending : t.progress.pending = [b.next.1]
  backoff : t.claimant.backoff = b.next.2

namespace Claimant

/-- An answer ends the call, or it takes the next delay off the backoff. -/
theorem answered_backoff (c : Claimant) (call : Call) (reply : Except LeaseFault Bool) :
    ((c.answered call reply).Settled c.backoff ∧ (c.answered call reply).progress.room = 0
      ∧ (reply = .ok false → call.left = 0))
    ∨ ((c.answered call reply).Draws c.backoff
      ∧ (c.answered call reply).progress.room + 1 = call.left) := by
  obtain ⟨errand, attempt, left⟩ := call
  match reply with
  | .ok true =>
      refine Or.inl ⟨?_, ?_, fun h => by cases h⟩
      · cases errand <;> exact ⟨rfl, rfl⟩
      · cases errand <;> rfl
  | .error fault =>
      refine Or.inl ⟨?_, ?_, fun h => by cases h⟩
      · cases errand <;> exact ⟨rfl, rfl⟩
      · cases errand <;> rfl
  | .ok false =>
      cases left with
      | zero =>
          refine Or.inl ⟨?_, ?_, fun _ => rfl⟩
          · cases errand <;> exact ⟨rfl, rfl⟩
          · cases errand <;> rfl
      | succ left => exact Or.inr ⟨⟨rfl, rfl⟩, rfl⟩

theorem woken_backoff (c : Claimant) (call : Call) (result : Except String Unit) :
    (c.woken call result).Settled c.backoff
      ∧ (c.woken call result).progress.room ≤ call.left - 1
      ∧ (result = .ok () → (c.woken call result).progress.room = call.left - 1) := by
  obtain ⟨errand, attempt, left⟩ := call
  match result with
  | .ok () => exact ⟨⟨rfl, rfl⟩, Nat.le_refl _, fun _ => rfl⟩
  | .error text =>
      cases errand <;> exact ⟨⟨rfl, rfl⟩, Nat.zero_le _, fun h => by cases h⟩

end Claimant

/-! ## Whole calls -/

section Calls

variable {σ : Type} (w : Surroundings σ)

/-- The waits of a call from a turn on: what is pending, and then a part
of the schedule. -/
theorem waits_finish (t : Turn) (s : σ) :
    ∃ n, n ≤ t.progress.room
      ∧ waits (t.contacts w s) = t.progress.pending ++ t.claimant.backoff.schedule n
      ∧ (t.finish w s).claimant.backoff = t.claimant.backoff.later n
      ∧ (w.Refuses → n = t.progress.room) := by
  induction t, s using Turn.finish.induct w with
  | case1 t s outcome h =>
      refine ⟨0, Nat.zero_le _, ?_, ?_, fun _ => ?_⟩
      · rw [Turn.contacts_ended h, waits_told, h]
        rfl
      · rw [Turn.finish_ended h]
        rfl
      · rw [h]
        rfl
  | case2 t s _ call h reply s' hask ih =>
      obtain ⟨n, hn, hwaits, hbackoff, hrefuses⟩ := ih
      have hcontacts : waits (t.contacts w s) = t.progress.pending
          ++ waits ((t.claimant.answered call reply).contacts w s') := by
        rw [Turn.contacts_asking h hask, waits_append, waits_told, h]
        rfl
      rw [hcontacts, hwaits, Turn.finish_asking h hask, hbackoff]
      rcases t.claimant.answered_backoff call reply with ⟨settled, hroom, hlast⟩ | ⟨draws, hroom⟩
      · obtain rfl : n = 0 := by omega
        refine ⟨0, Nat.zero_le _, ?_, ?_, fun refuses => ?_⟩
        · rw [settled.pending]
          rfl
        · rw [settled.backoff]
        · have hreply : reply = .ok false := by
            rw [← refuses.1 call.errand t.claimant.id t.claimant.key.text t.claimant.kind _, hask]
          rw [h]
          exact (hlast hreply).symm
      · refine ⟨n + 1, ?_, ?_, ?_, fun refuses => ?_⟩
        · rw [h]
          exact Nat.le_trans (Nat.succ_le_succ hn) (Nat.le_of_eq hroom)
        · rw [draws.pending, draws.backoff]
          rfl
        · rw [draws.backoff]
          rfl
        · rw [h, hrefuses refuses]
          exact hroom
  | case3 t s _ call delay h result s' hrest ih =>
      obtain ⟨n, hn, hwaits, hbackoff, hrefuses⟩ := ih
      obtain ⟨settled, hroom, hall⟩ := t.claimant.woken_backoff call result
      have hcontacts : waits (t.contacts w s) = t.progress.pending
          ++ waits ((t.claimant.woken call result).contacts w s') := by
        rw [Turn.contacts_sleeping h hrest, waits_append, waits_told, h]
        rfl
      refine ⟨n, ?_, ?_, ?_, fun refuses => ?_⟩
      · rw [h]
        exact Nat.le_trans hn hroom
      · rw [hcontacts, hwaits, settled.pending, settled.backoff]
        rfl
      · rw [Turn.finish_sleeping h hrest, hbackoff, settled.backoff]
      · have hresult : result = .ok () := by
          rw [← refuses.2 delay _, hrest]
        rw [h, hrefuses refuses]
        exact hall hresult

/-- The waits of a call are a part of its claimant's schedule. -/
theorem waits_perform (c : Claimant) (errand : Errand) (s : σ) :
    ∃ n, n ≤ c.policy.tries - 1
      ∧ waits (c.contacts errand w s) = c.backoff.reset.schedule n
      ∧ (c.perform errand w s).claimant.backoff = c.backoff.reset.later n
      ∧ (w.Refuses → n = c.policy.tries - 1) :=
  waits_finish w (c.begin errand) s

end Calls

/-! ## Claimants that come up -/

/-- A claimant that was created and taken through any parts of calls. A
call that is cut off in the middle leaves a claimant that comes up, too. -/
inductive Claimant.Formed : Claimant → Prop where
  | create (key : ResourceKey) (id caller : String) (draws : Nat → Draw) :
      Formed (Claimant.create key id caller draws)
  | withPolicy {c : Claimant} (before : Formed c) (policy : RetryPolicy) (draws : Nat → Draw) :
      Formed (c.withPolicy policy draws)
  | begin {c : Claimant} (before : Formed c) (errand : Errand) : Formed (c.begin errand).claimant
  | answered {c : Claimant} (before : Formed c) (call : Call) (reply : Except LeaseFault Bool) :
      Formed (c.answered call reply).claimant
  | woken {c : Claimant} (before : Formed c) (call : Call) (result : Except String Unit) :
      Formed (c.woken call result).claimant

namespace Claimant

theorem Formed.finish {σ : Type} (w : Surroundings σ) {t : Turn} (s : σ)
    (formed : t.claimant.Formed) : (t.finish w s).claimant.Formed := by
  induction t, s using Turn.finish.induct w with
  | case1 t s outcome h => rwa [Turn.finish_ended h]
  | case2 t s _ call h reply s' hask ih =>
      rw [Turn.finish_asking h hask]
      exact ih (formed.answered call reply)
  | case3 t s _ call delay h result s' hrest ih =>
      rw [Turn.finish_sleeping h hrest]
      exact ih (formed.woken call result)

/-- Whole calls are parts of calls. -/
theorem Formed.perform {σ : Type} {c : Claimant} (formed : c.Formed) (errand : Errand)
    (w : Surroundings σ) (s : σ) : (c.perform errand w s).claimant.Formed :=
  (formed.begin errand).finish w s

theorem Formed.firstBound {c : Claimant} (formed : c.Formed) :
    c.backoff.firstBound = c.policy.firstBound := by
  induction formed with
  | create key id caller draws => rfl
  | withPolicy before policy draws ih => rfl
  | begin before errand ih => exact ih
  | @answered c before call reply ih =>
      rw [(c.answered_follows call reply).policy]
      rcases c.answered_backoff call reply with ⟨settled, -, -⟩ | ⟨draws, -⟩
      · rw [settled.backoff]
        exact ih
      · rw [draws.backoff]
        exact ih
  | @woken c before call result ih =>
      rw [(c.woken_follows call result).policy, (c.woken_backoff call result).1.backoff]
      exact ih

theorem Formed.kind {c : Claimant} (formed : c.Formed) : c.kind = .modification := by
  induction formed with
  | create key id caller draws => rfl
  | withPolicy before policy draws ih => exact ih
  | begin before errand ih => exact ih
  | @answered c before call reply ih => exact (c.answered_follows call reply).kind.trans ih
  | @woken c before call result ih => exact (c.woken_follows call result).kind.trans ih

end Claimant

end FormLease
