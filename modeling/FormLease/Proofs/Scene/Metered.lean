import FormLease.Proofs.Call.Measures
import FormLease.Proofs.Scene.Step

/-!
# What a turn measures

In a scene a call is cut into turns, and what one of them measures is
decided by where it leaves the call (`Turn.Metered`), whichever turn it is:
nothing when the claimant asks again, a backoff when it goes to sleep, and
one of the closings when the call ends. So a call is counted in its last
turn. The attempts of an acquire are too, and until then they are owed by
whoever is at it (`Activity.claims`, `Turn.Metered.attempts`).
-/

namespace FormLease

/-- The attempts of a call add up to what the policy allows, and a backoff
is begun only if a further one is left. -/
def Progress.Counted (tries : Nat) : Progress → Prop
  | .asking call => 0 < call.attempt ∧ call.attempt + call.left = tries
  | .sleeping call _ => 0 < call.left ∧ call.attempt + call.left = tries
  | .ended _ => True

/-- A turn in a call that got so many answers: where it leaves the call, and
what it measures. -/
inductive Turn.Metered (t : Turn) (errand : Errand) (n : Nat) : Prop where
  | asks {call : Call} (progress : t.progress = .asking call) (same : call.errand = errand)
      (count : call.attempt = n + 1) (samples : samplesOf t.events = [])
  | sleeps {call : Call} {delay : Span} (progress : t.progress = .sleeping call delay)
      (same : call.errand = errand) (count : call.attempt = n)
      (samples : samplesOf t.events = backoffSamples [delay])
  | ends {outcome : Except LeaseFault Unit} (k : Closing) (progress : t.progress = .ended outcome)
      (samples : samplesOf t.events = (k.measure errand n).samples)

namespace Claimant

variable (c : Claimant) {call : Call}

theorem begin_metered (errand : Errand) : (c.begin errand).Metered errand 0 :=
  .asks rfl rfl rfl rfl

theorem begin_counted (errand : Errand) : (c.begin errand).progress.Counted c.policy.tries := by
  have hpos := c.policy.tries_pos
  exact ⟨Nat.one_pos, show 1 + (c.policy.tries - 1) = c.policy.tries by omega⟩

theorem answered_metered (counted : (Progress.asking call).Counted c.policy.tries)
    (reply : Except LeaseFault Bool) :
    (c.answered call reply).Metered call.errand call.attempt
      ∧ (c.answered call reply).progress.Counted c.policy.tries := by
  match reply with
  | .ok true =>
      have hended := c.answered_yes call
      refine ⟨.ends .granted hended ?_, hended ▸ trivial⟩
      rw [events_yes, Closing.samplesOf_tellings (by rintro ⟨⟩)]
      rfl
  | .error fault =>
      have hended := c.answered_fault call fault
      refine ⟨.ends (.failed fault) hended ?_, hended ▸ trivial⟩
      rw [events_fault, Closing.samplesOf_tellings (by rintro ⟨⟩)]
      rfl
  | .ok false =>
      obtain ⟨-, hsum⟩ := counted
      by_cases hleft : call.left = 0
      · have hended := answered_no_last hleft c
        refine ⟨.ends .exhausted hended ?_, hended ▸ trivial⟩
        have hall : c.policy.tries = call.attempt := by omega
        rw [events_no_last hleft, Closing.samplesOf_tellings fun _ => hall]
        rfl
      · obtain ⟨delay, hsleeping⟩ := answered_no hleft c
        refine ⟨.sleeps hsleeping rfl rfl ?_, ?_⟩
        · rw [events_no hsleeping]
          cases call.errand <;> rfl
        · rw [hsleeping]
          exact ⟨Nat.pos_of_ne_zero hleft, hsum⟩

theorem woken_metered {delay : Span}
    (counted : (Progress.sleeping call delay).Counted c.policy.tries) (result : Except String Unit) :
    (c.woken call result).Metered call.errand call.attempt
      ∧ (c.woken call result).progress.Counted c.policy.tries := by
  obtain ⟨hleft, hsum⟩ := counted
  match result with
  | .ok () =>
      refine ⟨.asks rfl rfl rfl rfl, Nat.succ_pos _, ?_⟩
      change call.attempt + 1 + (call.left - 1) = c.policy.tries
      omega
  | .error text =>
      have hended := c.woken_cut call text
      refine ⟨.ends (.interrupted delay text) hended ?_, hended ▸ trivial⟩
      rw [events_cut]
      cases call.errand <;> rfl

end Claimant

/-! ## What is measured and what is owed -/

/-- What the counter of that name has gone up by. -/
def counter (name : String) (samples : List Sample) : Nat :=
  ((increments name samples).map Prod.snd).sum

def Errand.total : Errand → String
  | acquire => acquireTotal
  | release => releaseTotal

namespace Activity

def pause? : Activity → Option Span
  | sleeping _ delay _ => some delay
  | idle | asking _ _ | inside => none

/-- How many answers an acquire that is under way has had. -/
def claims : Activity → Nat
  | asking call _ => if call.errand = .acquire then call.attempt - 1 else 0
  | sleeping call _ _ => if call.errand = .acquire then call.attempt else 0
  | idle | inside => 0

def Counted (tries : Nat) : Activity → Prop
  | asking call _ => (Progress.asking call).Counted tries
  | sleeping call delay _ => (Progress.sleeping call delay).Counted tries
  | idle | inside => True

theorem claims_of_call? {a : Activity} (h : a.call? = none) : a.claims = 0 := by
  cases a with
  | asking call bracket => cases h
  | sleeping call delay bracket => cases h
  | _ => rfl

end Activity

namespace Scene

theorem activityAfter_ended (errand : Errand) (bracket : Bool) (outcome : Except LeaseFault Unit) :
    activityAfter errand bracket (.ended outcome) = .idle
      ∨ activityAfter errand bracket (.ended outcome) = .inside := by
  match outcome with
  | .ok () =>
      simp only [activityAfter]
      split
      · exact .inr rfl
      · exact .inl rfl
  | .error fault => exact .inl rfl

theorem activityAfter_counted {tries : Nat} {progress : Progress}
    (counted : progress.Counted tries) (errand : Errand) (bracket : Bool) :
    (activityAfter errand bracket progress).Counted tries := by
  cases progress with
  | asking call => exact counted
  | sleeping call delay => exact counted
  | ended outcome =>
      rcases activityAfter_ended errand bracket outcome with h | h <;> exact h ▸ trivial

end Scene

namespace Turn.Metered

variable {t : Turn} {errand : Errand} {n : Nat}

theorem backoffs (metered : t.Metered errand n) (bracket : Bool) :
    values backoffSeconds (samplesOf t.events)
      = (Scene.activityAfter errand bracket t.progress).pause?.toList.map Span.binarySeconds := by
  cases metered with
  | asks progress same count samples =>
      rw [progress, samples]
      rfl
  | sleeps progress same count samples =>
      rw [progress, samples, values_backoffSamples]
      rfl
  | @ends outcome k progress samples =>
      have hnone : values backoffSeconds (samplesOf t.events) = [] := by
        rw [samples]
        cases errand <;> rfl
      rw [hnone, progress]
      rcases Scene.activityAfter_ended errand bracket outcome with h | h <;> rw [h] <;> rfl

theorem total (metered : t.Metered errand n) (e : Errand) :
    counter e.total (samplesOf t.events)
      = if t.progress.call? = none ∧ errand = e then 1 else 0 := by
  cases metered with
  | asks progress same count samples =>
      rw [progress, samples]
      rfl
  | sleeps progress same count samples =>
      rw [progress, samples, counter, increments_backoffSamples]
      rfl
  | ends k progress samples =>
      rw [progress, samples]
      cases errand <;> cases e <;> rfl

theorem once (metered : t.Metered errand n) :
    (values acquireAttempts (samplesOf t.events)).length
      = if t.progress.call? = none ∧ errand = .acquire then 1 else 0 := by
  cases metered with
  | asks progress same count samples =>
      rw [progress, samples]
      rfl
  | sleeps progress same count samples =>
      rw [progress, samples, values_backoffSamples_of_ne (by decide)]
      rfl
  | ends k progress samples =>
      rw [progress, samples]
      cases errand <;> rfl

/-- The attempts of an acquire are in the metrics, or they are still owed. -/
theorem attempts (metered : t.Metered errand n) (few : n < 2 ^ 53) (bracket : Bool) :
    (values acquireAttempts (samplesOf t.events)).sum
        + (Scene.activityAfter errand bracket t.progress).claims * Magnitude.one
      = (if errand = .acquire then n else 0) * Magnitude.one := by
  cases metered with
  | asks progress same count samples =>
      subst same
      rw [progress, samples, Scene.activityAfter, Activity.claims, count]
      exact Nat.zero_add _
  | sleeps progress same count samples =>
      subst same
      rw [progress, samples, values_backoffSamples_of_ne (by decide), Scene.activityAfter,
        Activity.claims, count]
      exact Nat.zero_add _
  | @ends outcome k progress samples =>
      have hidle : (Scene.activityAfter errand bracket t.progress).claims = 0 := by
        rw [progress]
        rcases Scene.activityAfter_ended errand bracket outcome with h | h <;> rw [h] <;> rfl
      rw [hidle, Nat.zero_mul, Nat.add_zero, samples]
      cases errand with
      | acquire =>
          have hvalue : values acquireAttempts (k.measure .acquire n).samples
              = [Magnitude.ofNat n] := rfl
          rw [hvalue, List.sum_singleton, Span.ofNat_of_lt few, if_pos rfl]
      | release => exact (Nat.zero_mul _).symm

end Turn.Metered

end FormLease
