import FormLease.Proofs.Call.Waits
import FormLease.Proofs.Fraction
import FormLease.Proofs.RetryPolicy

/-!
# How far the announced ceiling holds

A policy announces a ceiling on the waits of a call: one bound for each
attempt. A call waits once less than it tries, so there is one bound to
spare, the greatest. But the bounds that calls wait for go on doubling up
to the longest span (`doublings`), while those in the ceiling stop growing
when the factor has 32 binary digits (`RetryPolicy.weight`). What there is
to spare makes up for that through 34 attempts. From 35 attempts on a call
can wait longer than announced, unless there is nothing to wait for or the
ceiling is the longest span anyway (`worstCaseWait_bounds_iff`).
-/

namespace FormLease

namespace Backoff

/-! ## Bounds that double -/

/-- The sum of `n` bounds, in nanoseconds: the first is `x`, and each is
twice the one before it while there is room. -/
def doublings : (n x : Nat) → Nat
  | 0, _ => 0
  | n + 1, x => x + doublings n (min (x * 2) Span.maxNanos)

theorem doublings_le (n x : Nat) : doublings n x ≤ x * (2 ^ n - 1) := by
  induction n generalizing x with
  | zero => exact Nat.zero_le _
  | succ n ih =>
      have hpow := Nat.two_pow_pos n
      calc doublings (n + 1) x ≤ x + min (x * 2) Span.maxNanos * (2 ^ n - 1) :=
            Nat.add_le_add_left (ih _) x
        _ ≤ x + x * 2 * (2 ^ n - 1) :=
            Nat.add_le_add_left (Nat.mul_le_mul_right _ (Nat.min_le_left ..)) x
        _ = x * (1 + 2 * (2 ^ n - 1)) := by rw [Nat.mul_add, Nat.mul_one, Nat.mul_assoc]
        _ = x * (2 ^ (n + 1) - 1) := by
            congr 1
            rw [Nat.pow_succ]
            omega

/-- If a doubling runs out of room, the bound before it and the one after
it make one and a half longest spans. -/
theorem doublings_cases (n : Nat) {x : Nat} (hx : x ≤ Span.maxNanos) :
    doublings n x = x * (2 ^ n - 1) ∨ 3 * Span.maxNanos ≤ 2 * doublings n x := by
  induction n generalizing x with
  | zero => exact Or.inl rfl
  | succ n ih =>
      have hpow := Nat.two_pow_pos n
      have hfactor : 2 ^ (n + 1) - 1 = 1 + 2 * (2 ^ n - 1) := by
        rw [Nat.pow_succ]
        omega
      rw [doublings, hfactor, Nat.mul_add, Nat.mul_one, ← Nat.mul_assoc]
      rcases Nat.le_total (x * 2) Span.maxNanos with hroom | hfull
      · rw [Nat.min_eq_left hroom]
        rcases ih hroom with hall | hmore
        · rw [hall]
          exact Or.inl rfl
        · exact Or.inr (by omega)
      · rw [Nat.min_eq_right hfull]
        cases n with
        | zero => exact Or.inl rfl
        | succ n =>
            rw [doublings]
            exact Or.inr (by omega)

/-! ## Delays under doubling bounds -/

theorem sum_schedule_le (b : Backoff) (n : Nat) :
    ((b.schedule n).map Span.nanos).sum ≤ doublings n b.currentBound.nanos := by
  induction n generalizing b with
  | zero => exact Nat.le_refl _
  | succ n ih =>
      rw [schedule, List.map_cons, List.sum_cons, doublings]
      exact Nat.add_le_add (b.currentBound.fraction_le _) (ih b.next.2)

/-- The greatest draws bring the delays close to their bounds. -/
theorem le_sum_schedule {b : Backoff} (hdraws : ∀ i, b.draws i = Span.greatest) (n : Nat) :
    (2 ^ 49 - 1) * doublings n b.currentBound.nanos
      ≤ 2 ^ 49 * ((b.schedule n).map Span.nanos).sum := by
  induction n generalizing b with
  | zero => exact Nat.le_refl _
  | succ n ih =>
      have hfirst := b.currentBound.le_fractionNanos_greatest
      have hrest := ih (b := b.next.2) hdraws
      have hdelay : b.next.1.nanos = b.currentBound.fractionNanos Span.greatest := by
        rw [← Span.nanos_fraction, ← hdraws b.drawn]
        rfl
      rw [schedule, List.map_cons, List.sum_cons, doublings, hdelay]
      change (2 ^ 49 - 1) * doublings n (min (b.currentBound.nanos * 2) Span.maxNanos) ≤ _ at hrest
      omega

end Backoff

namespace RetryPolicy

/-! ## The weight of a ceiling against doubling -/

theorem le_weight : ∀ n < 35, 2 ^ (n - 1) - 1 ≤ weight n := by decide

/-- With 35 attempts or more the doubling has overtaken the weight, by
more than the greatest draws leave out. -/
theorem weight_lt {n : Nat} (h : 35 ≤ n) :
    2 ^ 49 * weight n < (2 ^ 49 - 1) * (2 ^ (n - 1) - 1) ∧ maxFactor ≤ weight n := by
  induction n, h using Nat.le_induction with
  | base => decide
  | succ n hn ih =>
      have hfactor : factor n = maxFactor := if_neg (by unfold settled; omega)
      have hpow : 2 ^ (n + 1 - 1) = 2 * 2 ^ (n - 1) := by
        rw [← Nat.pow_succ']
        congr 1
        omega
      have hpos := Nat.two_pow_pos (n - 1)
      rw [weight, hfactor, hpow]
      omega

/-! ## Calls against the ceiling -/

/-- Nobody here ever gets anything. -/
def refusing : Surroundings Unit where
  ask _ _ _ _ s := (.ok false, s)
  rest _ s := (.ok (), s)
  hear _ _ s := s

theorem refuses_refusing : refusing.Refuses := ⟨fun _ _ _ _ _ => rfl, fun _ _ => rfl⟩

/-- A claimant under this policy whose draws are all the greatest. -/
def unlucky (p : RetryPolicy) : Claimant :=
  (Claimant.create ⟨"f", 0⟩ "a" "u" fun _ => 0).withPolicy p fun _ => Span.greatest

theorem formed_unlucky (p : RetryPolicy) : p.unlucky.Formed := (Claimant.Formed.create ..).withPolicy ..

/-- How long a call waits in all is a matter of the first bound and the
number of attempts. -/
theorem total_waits_le {c : Claimant} (formed : c.Formed) (errand : Errand) {σ : Type}
    (w : Surroundings σ) (s : σ) :
    (Span.total (waits (c.contacts errand w s))).nanos
      ≤ c.policy.firstBound.nanos * (2 ^ (c.policy.tries - 1) - 1) := by
  obtain ⟨n, hn, hwaits, -, -⟩ := waits_perform w c errand s
  have hpow : 2 ^ n - 1 ≤ 2 ^ (c.policy.tries - 1) - 1 :=
    Nat.sub_le_sub_right (Nat.pow_le_pow_right (by decide) hn) 1
  rw [hwaits, Span.total_eq, ← formed.firstBound]
  calc _ ≤ ((c.backoff.reset.schedule n).map Span.nanos).sum := Nat.min_le_left ..
    _ ≤ Backoff.doublings n c.backoff.firstBound.nanos := Backoff.sum_schedule_le _ n
    _ ≤ c.backoff.firstBound.nanos * (2 ^ n - 1) := Backoff.doublings_le n _
    _ ≤ c.backoff.firstBound.nanos * (2 ^ (c.policy.tries - 1) - 1) := Nat.mul_le_mul_left _ hpow

/-- A claimant with bad luck waits close to all the bounds that there
are. -/
theorem waits_unlucky (p : RetryPolicy) :
    waits (p.unlucky.contacts .acquire refusing ())
      = p.unlucky.backoff.schedule (p.tries - 1) := by
  obtain ⟨n, -, hwaits, -, hall⟩ := waits_perform refusing p.unlucky .acquire ()
  rw [hwaits, hall refuses_refusing]
  rfl

/-- With so many attempts bad luck exceeds the ceiling. -/
theorem worstCaseWait_lt {p : RetryPolicy} (htries : 35 ≤ p.tries)
    (hbound : p.firstBound ≠ Span.zero) (hceiling : p.worstCaseWait ≠ Span.longest) :
    p.worstCaseWait.nanos
      < (Span.total (waits (p.unlucky.contacts .acquire refusing ()))).nanos := by
  have hroom : p.firstBound.nanos * weight p.tries < Span.maxNanos := by
    refine Nat.lt_of_not_le fun hfull => hceiling ?_
    rw [worstCaseWait_eq]
    exact Span.ofNanos_of_le hfull
  have hdraws := Backoff.le_sum_schedule (b := p.unlucky.backoff) (fun _ => rfl) (p.tries - 1)
  rw [waits_unlucky, Span.total_eq, worstCaseWait_eq, Span.nanos_ofNanos, Span.nanos_ofNanos,
    Nat.min_eq_left (Nat.le_of_lt hroom)]
  refine Nat.lt_min.mpr ⟨?_, hroom⟩
  change (2 ^ 49 - 1) * Backoff.doublings (p.tries - 1) p.firstBound.nanos ≤ _ at hdraws
  rcases Backoff.doublings_cases (p.tries - 1) p.firstBound.le_max with hall | hmore
  · have hweight := Nat.mul_lt_mul_of_pos_left (weight_lt htries).1 (Span.nanos_pos hbound)
    rw [hall, Nat.mul_left_comm] at hdraws
    rw [Nat.mul_left_comm] at hweight
    exact Nat.lt_of_mul_lt_mul_left (Nat.lt_of_lt_of_le hweight hdraws)
  · omega

/-- **Where the ceiling holds.** All calls of all claimants under a policy
wait in all for no longer than it announces, whatever the draws are and
whatever the surroundings do, exactly if the policy allows 34 attempts at
most, or has no bound to wait for, or announces the longest span. -/
theorem worstCaseWait_bounds_iff (p : RetryPolicy) :
    (∀ c : Claimant, c.Formed → c.policy = p →
      ∀ (errand : Errand) (σ : Type) (w : Surroundings σ) (s : σ),
        (Span.total (waits (c.contacts errand w s))).nanos ≤ p.worstCaseWait.nanos)
    ↔ p.tries ≤ 34 ∨ p.firstBound = Span.zero ∨ p.worstCaseWait = Span.longest := by
  constructor
  · intro hbounds
    rcases Nat.lt_or_ge 34 p.tries with hmany | hfew
    · by_cases hzero : p.firstBound = Span.zero
      · exact Or.inr (Or.inl hzero)
      · by_cases hlongest : p.worstCaseWait = Span.longest
        · exact Or.inr (Or.inr hlongest)
        · have hlt := worstCaseWait_lt hmany hzero hlongest
          have hle := hbounds p.unlucky p.formed_unlucky rfl .acquire Unit refusing ()
          exact absurd hle (Nat.not_le_of_lt hlt)
    · exact Or.inl hfew
  · rintro hcases c formed rfl errand σ w s
    have hle := total_waits_le formed errand w s
    rcases hcases with hfew | hzero | hlongest
    · have hweight := Nat.mul_le_mul_left c.policy.firstBound.nanos
        (le_weight c.policy.tries (Nat.lt_succ_of_le hfew))
      rw [worstCaseWait_eq, Span.nanos_ofNanos]
      exact Nat.le_min.mpr ⟨Nat.le_trans hle hweight, Span.le_max _⟩
    · have hnanos : Span.zero.nanos = 0 := rfl
      rw [hzero, hnanos, Nat.zero_mul] at hle
      exact Nat.le_trans hle (Nat.zero_le _)
    · rw [hlongest]
      exact Span.le_max _

def nanosecond : RetryPolicy := ⟨36, Span.ofNanos 1, by decide, by decide⟩

/-- It announces less than 22 seconds, and a call can wait for more than
34. -/
theorem worstCaseWait_nanosecond :
    nanosecond.worstCaseWait.nanos = 21474836475
    ∧ (Span.total (waits (nanosecond.unlucky.contacts .acquire refusing ()))).nanos
      = 34359738367 := by
  rw [waits_unlucky]
  exact ⟨by decide +kernel, by decide +kernel⟩

end RetryPolicy

end FormLease
