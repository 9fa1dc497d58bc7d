import FormLease.Proofs.Call.InStep
import Mathlib.Data.List.Forall2

/-!
# Claimants on a par

Of everything that happened to a claimant, its next call can know what the
claimant carries along: the policy, the state of the backoff, and whether
it holds. The begin of the call takes the bound of the backoff back, and
whether it holds is never looked at. So two claimants with one policy and
the same draws to come are on a par. As long as both meet the same, a turn
of the one is matched by a turn of the other that tells as much, waits for
as long and ends in the same way, each in its own name (`Turn.OnPar`).

The turns are kept on a par by `answered` and `woken`, and `onPar_finish`
goes through a whole call with them.
-/

namespace FormLease

namespace Backoff

/-- The draws to come. -/
def ahead (b : Backoff) (i : Nat) : Draw := b.draws (b.drawn + i)

/-- From here on both give the same waits, in this call and in later ones. -/
structure OnPar (b b' : Backoff) : Prop where
  firstBound : b'.firstBound = b.firstBound
  currentBound : b'.currentBound = b.currentBound
  ahead : b'.ahead = b.ahead

theorem OnPar.next {b b' : Backoff} (h : b.OnPar b') :
    b'.next.1 = b.next.1 ∧ b.next.2.OnPar b'.next.2 := by
  have hdraw : b'.draws b'.drawn = b.draws b.drawn := congrFun h.ahead 0
  refine ⟨?_, h.firstBound, congrArg (·.mul 2) h.currentBound, funext fun i => ?_⟩
  · rw [Backoff.next, h.currentBound, hdraw]
    rfl
  · have hlater : b'.draws (b'.drawn + (1 + i)) = b.draws (b.drawn + (1 + i)) :=
      congrFun h.ahead (1 + i)
    rwa [← Nat.add_assoc, ← Nat.add_assoc] at hlater

end Backoff

/-! ## The same in another name -/

def LeaseFault.inName (c : Claimant) : LeaseFault → LeaseFault
  | timedOut _ _ => timedOut c.id c.key.text
  | storeFailed _ cause => storeFailed c.key.text cause
  | fault => fault

theorem LeaseFault.inName_congr {c d : Claimant} (hid : d.id = c.id) (hkey : d.key = c.key) :
    inName d = inName c := by
  funext fault
  cases fault <;> simp only [inName, hid, hkey]

def Progress.inName (c : Claimant) : Progress → Progress
  | ended outcome => ended (outcome.mapError (.inName c))
  | progress => progress

/-- One contact of each claimant, the same but for their names and for what
else is to be known of who tells. -/
inductive Contact.SameFor (a b : Claimant) : Contact → Contact → Prop where
  | asked (errand : Errand) (reply : Except LeaseFault Bool) :
      SameFor a b (a.attempt errand reply) (b.attempt errand reply)
  | rested (delay : Span) (result : Except String Unit) :
      SameFor a b (.rested delay result) (.rested delay result)
  | heard (teller teller' : Claimant) (event : Event) :
      SameFor a b (.heard teller event) (.heard teller' event)

/-- Two turns that are equally far, under one policy. -/
structure Turn.OnPar (t t' : Turn) : Prop where
  policy : t'.claimant.policy = t.claimant.policy
  backoff : t.claimant.backoff.OnPar t'.claimant.backoff
  events : t'.events = t.events
  progress : t'.progress = t.progress.inName t'.claimant

theorem sameFor_told {t t' : Turn} (onPar : t.OnPar t') (a b : Claimant) :
    List.Forall₂ (Contact.SameFor a b) t.told t'.told := by
  rw [Turn.told, Turn.told, onPar.events]
  induction t.events with
  | nil => exact .nil
  | cons event rest ih => exact .cons (.heard _ _ event) ih

namespace Claimant

variable {c c' : Claimant}

theorem begin_onPar (hpolicy : c'.policy = c.policy) (errand : Errand)
    (hfirst : c'.backoff.firstBound = c.backoff.firstBound)
    (hahead : c'.backoff.ahead = c.backoff.ahead) :
    (c.begin errand).OnPar (c'.begin errand) := by
  refine ⟨hpolicy, ⟨hfirst, hfirst, hahead⟩, rfl, ?_⟩
  change Progress.asking ⟨errand, 1, c'.policy.tries - 1⟩ = .asking ⟨errand, 1, c.policy.tries - 1⟩
  rw [hpolicy]

theorem exhausted_onPar (hpolicy : c'.policy = c.policy) (hbackoff : c.backoff.OnPar c'.backoff)
    (errand : Errand) : (c.exhausted errand).OnPar (c'.exhausted errand) := by
  cases errand <;> exact ⟨hpolicy, hbackoff, by simp only [exhausted, hpolicy], rfl⟩

theorem turnedDown_onPar (hpolicy : c'.policy = c.policy) (hbackoff : c.backoff.OnPar c'.backoff)
    (call : Call) : (c.turnedDown call).OnPar (c'.turnedDown call) := by
  unfold turnedDown
  split
  · obtain ⟨hpolicy', hbackoff', hevents, hprogress⟩ :=
      exhausted_onPar hpolicy hbackoff call.errand
    exact ⟨hpolicy', hbackoff', congrArg (_ :: ·) hevents, hprogress⟩
  · obtain ⟨hdelay, hnext⟩ := hbackoff.next
    refine ⟨hpolicy, hnext, ?_, ?_⟩
    · simp only [hdelay]
    · simp only [hdelay, Progress.inName]

theorem answered_onPar (hpolicy : c'.policy = c.policy) (hbackoff : c.backoff.OnPar c'.backoff)
    (call : Call) (reply : Except LeaseFault Bool) :
    (c.answered call reply).OnPar (c'.answered call reply) := by
  match reply with
  | .ok true =>
      simp only [answered, granted]
      cases call.errand <;> exact ⟨hpolicy, hbackoff, rfl, rfl⟩
  | .ok false => exact turnedDown_onPar hpolicy hbackoff call
  | .error fault =>
      simp only [answered, failed]
      cases call.errand <;> exact ⟨hpolicy, hbackoff, rfl, rfl⟩

theorem woken_onPar (hpolicy : c'.policy = c.policy) (hbackoff : c.backoff.OnPar c'.backoff)
    (call : Call) (result : Except String Unit) :
    (c.woken call result).OnPar (c'.woken call result) := by
  match result with
  | .ok () => exact ⟨hpolicy, hbackoff, rfl, rfl⟩
  | .error text =>
      simp only [woken, interrupted]
      cases call.errand <;> exact ⟨hpolicy, hbackoff, rfl, rfl⟩

end Claimant

/-! ## Calls on a par -/

section Calls

variable {σ τ : Type} {w : Surroundings σ} {w' : Surroundings τ} {a b : Claimant} {errand : Errand}

/-- Two calls from a turn on that cannot be told apart but by names. -/
structure SameCall (a b : Claimant) (w : Surroundings σ) (w' : Surroundings τ) (t t' : Turn)
    (s : σ) (s' : τ) : Prop where
  contacts : List.Forall₂ (Contact.SameFor a b) (t.contacts w s) (t'.contacts w' s')
  outcome : (t'.finish w' s').outcome = (t.finish w s).outcome.mapError (.inName b)
  backoff : (t.finish w s).claimant.backoff.OnPar (t'.finish w' s').claimant.backoff

theorem onPar_finish (t : Turn) (s : σ) :
    ∀ {answers : Nat → Except LeaseFault Bool} {ends : Nat → Except String Unit} {t' : Turn}
      {s' : τ}, t.OnPar t' → t.Follows a errand → t'.Follows b errand →
      Meets answers ends (t.dealings w s) → Meets answers ends (t'.dealings w' s') →
      SameCall a b w w' t t' s s' := by
  induction t, s using Turn.finish.induct w with
  | case1 t s outcome h =>
      intro answers ends t' s' onPar follows follows' _ _
      have h' : t'.progress = .ended (outcome.mapError (.inName t'.claimant)) := by
        rw [onPar.progress, h]
        rfl
      refine ⟨?_, ?_, ?_⟩
      · rw [Turn.contacts_ended h, Turn.contacts_ended h']
        exact sameFor_told onPar a b
      · rw [Turn.finish_ended h, Turn.finish_ended h',
          LeaseFault.inName_congr follows'.id follows'.key]
      · rw [Turn.finish_ended h, Turn.finish_ended h']
        exact onPar.backoff
  | case2 t s _ call h reply next hask =>
      rename_i ih
      intro answers ends t' s' onPar follows follows' meets meets'
      have h' : t'.progress = .asking call := by
        rw [onPar.progress, h]
        rfl
      obtain rfl : call.errand = errand := follows.errand call (by rw [h]; rfl)
      rcases hask' : w'.ask call.errand t'.claimant.id t'.claimant.key.text t'.claimant.kind
        (t'.heard w' s') with ⟨reply', next'⟩
      rw [Turn.dealings_asking h hask, meets_asked] at meets
      rw [Turn.dealings_asking h' hask', meets_asked] at meets'
      obtain rfl : reply' = reply := meets'.1.trans meets.1.symm
      obtain ⟨hcontacts, houtcome, hbackoff⟩ :=
        ih (Claimant.answered_onPar onPar.policy onPar.backoff call reply')
          (follows.trans (t.claimant.answered_follows call reply'))
          (follows'.trans (t'.claimant.answered_follows call reply')) meets.2 meets'.2
      rw [← Turn.finish_asking h hask, ← Turn.finish_asking h' hask'] at houtcome hbackoff
      refine ⟨?_, houtcome, hbackoff⟩
      rw [Turn.contacts_asking h hask, Turn.contacts_asking h' hask', follows.id, follows.key,
        follows.kind, follows'.id, follows'.key, follows'.kind]
      exact List.rel_append (sameFor_told onPar a b) (.cons (.asked call.errand reply') hcontacts)
  | case3 t s _ call delay h result next hrest =>
      rename_i ih
      intro answers ends t' s' onPar follows follows' meets meets'
      have h' : t'.progress = .sleeping call delay := by
        rw [onPar.progress, h]
        rfl
      obtain rfl : call.errand = errand := follows.errand call (by rw [h]; rfl)
      rcases hrest' : w'.rest delay (t'.heard w' s') with ⟨result', next'⟩
      rw [Turn.dealings_sleeping h hrest, meets_rested] at meets
      rw [Turn.dealings_sleeping h' hrest', meets_rested] at meets'
      obtain rfl : result' = result := meets'.1.trans meets.1.symm
      obtain ⟨hcontacts, houtcome, hbackoff⟩ :=
        ih (Claimant.woken_onPar onPar.policy onPar.backoff call result')
          (follows.trans (t.claimant.woken_follows call result'))
          (follows'.trans (t'.claimant.woken_follows call result')) meets.2 meets'.2
      rw [← Turn.finish_sleeping h hrest, ← Turn.finish_sleeping h' hrest'] at houtcome hbackoff
      refine ⟨?_, houtcome, hbackoff⟩
      rw [Turn.contacts_sleeping h hrest, Turn.contacts_sleeping h' hrest']
      exact List.rel_append (sameFor_told onPar a b) (.cons (.rested delay result') hcontacts)

end Calls

end FormLease
