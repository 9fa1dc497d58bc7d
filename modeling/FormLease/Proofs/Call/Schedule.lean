import FormLease.Proofs.Call.Ceiling

/-!
# Each wait by itself

A backoff that is drawn from `k` times has doubled its bound `k` times, as
far as there is room, and stands `k` draws further on. So the `k`-th wait
of a call, counted from zero, is the part of that bound which the `k`-th
draw from there picks out (`eq_of_schedule`), and nothing before the call
has a say in it but how many draws are used up.

Together with what is known about parts of spans this says how long each
wait can be, and that the arithmetic behind it never runs out of room
(`waits_within_bounds`).
-/

namespace FormLease

namespace Span

/-- Cutting off before a product is the same as cutting off after it. -/
theorem ofNanos_min_mul (n : Nat) {factor : Nat} (hfactor : 0 < factor) :
    ofNanos (min n maxNanos * factor) = ofNanos (n * factor) := by
  rcases Nat.le_total n maxNanos with hroom | hfull
  · rw [Nat.min_eq_left hroom]
  · rw [Nat.min_eq_right hfull, ofNanos_of_le (Nat.le_mul_of_pos_right _ hfactor),
      ofNanos_of_le (Nat.le_trans hfull (Nat.le_mul_of_pos_right _ hfactor))]

/-! ## Room for a part -/

/-- A part of a span in seconds is a number that a span can show. -/
theorem product_lt_of_le_max (bound : Span) (draw : Draw) :
    bound.product draw < 2 ^ 64 * Magnitude.one := by
  refine Nat.lt_of_not_le fun hlong => ?_
  have hone : 0 < Magnitude.one := Nat.lt_of_lt_of_le (by decide) le_one
  have hnanos : 2 ^ 64 * 1000000000 ≤ bound.fractionNanos draw := by
    refine le_nearestEven hone ?_
    calc 2 ^ 64 * 1000000000 * Magnitude.one = 2 ^ 64 * Magnitude.one * 1000000000 :=
          Nat.mul_right_comm ..
      _ ≤ bound.product draw * 1000000000 := Nat.mul_le_mul_right _ hlong
  have hmax : bound.fractionNanos draw ≤ maxNanos :=
    Nat.le_trans (bound.fractionNanos_le draw) bound.le_max
  exact absurd (Nat.le_trans hnanos hmax) (by decide)

end Span

namespace Backoff

variable (b : Backoff)

/-! ## After some waits -/

theorem currentBound_later (k : Nat) :
    (b.later k).currentBound = Span.ofNanos (b.currentBound.nanos * 2 ^ k) := by
  induction k generalizing b with
  | zero =>
      rw [Nat.pow_zero, Nat.mul_one]
      exact (Span.ofNanos_nanos b.currentBound).symm
  | succ k ih =>
      have hdoubled : b.next.2.currentBound.nanos = min (b.currentBound.nanos * 2) Span.maxNanos :=
        rfl
      rw [later, ih, hdoubled, Span.ofNanos_min_mul _ (Nat.two_pow_pos k), Nat.mul_assoc,
        ← Nat.pow_succ']

theorem drawn_later (k : Nat) : (b.later k).drawn = b.drawn + k := by
  induction k generalizing b with
  | zero => rfl
  | succ k ih =>
      rw [later, ih, Nat.add_comm k 1, ← Nat.add_assoc]
      rfl

theorem draws_later (k : Nat) : (b.later k).draws = b.draws := by
  induction k generalizing b with
  | zero => rfl
  | succ k ih => exact ih b.next.2

theorem firstBound_later (k : Nat) : (b.later k).firstBound = b.firstBound := by
  induction k generalizing b with
  | zero => rfl
  | succ k ih => exact ih b.next.2

/-! ## The waits in a schedule -/

theorem length_schedule (n : Nat) : (b.schedule n).length = n := by
  induction n generalizing b with
  | zero => rfl
  | succ n ih => rw [schedule, List.length_cons, ih]

theorem getElem?_schedule {n k : Nat} (hk : k < n) :
    (b.schedule n)[k]? = some (b.later k).next.1 := by
  induction k generalizing b n with
  | zero =>
      cases n with
      | zero => cases hk
      | succ n => rfl
  | succ k ih =>
      cases n with
      | zero => cases hk
      | succ n => exact ih b.next.2 (Nat.lt_of_succ_lt_succ hk)

/-- A wait is made of a bound that is doubled for each wait before it, and
of the next draw. -/
theorem eq_of_schedule {n k : Nat} {delay : Span} (h : (b.schedule n)[k]? = some delay) :
    delay = (Span.ofNanos (b.currentBound.nanos * 2 ^ k)).fraction (b.draws (b.drawn + k)) := by
  have hk : k < n := by
    obtain ⟨hlt, -⟩ := List.getElem?_eq_some_iff.mp h
    rwa [length_schedule] at hlt
  rw [b.getElem?_schedule hk] at h
  rw [← Option.some.inj h, ← currentBound_later, ← drawn_later, ← draws_later b k]
  rfl

/-- The longest that the `k`-th wait can be, in nanoseconds. -/
def ceilingAt (first k : Nat) : Nat := min (first * 2 ^ k) Span.maxNanos

theorem le_ceilingAt {n k : Nat} {delay : Span} (h : (b.schedule n)[k]? = some delay) :
    delay.nanos ≤ ceilingAt b.currentBound.nanos k := by
  rw [b.eq_of_schedule h]
  exact Span.fraction_le _ _

/-- Doubling first and then counting is counting one further on. -/
theorem ceilingAt_succ (first k : Nat) :
    ceilingAt (min (first * 2) Span.maxNanos) k = ceilingAt first (k + 1) := by
  have hcut := congrArg Span.nanos (Span.ofNanos_min_mul (first * 2) (Nat.two_pow_pos k))
  rw [Nat.mul_assoc, ← Nat.pow_succ'] at hcut
  exact hcut

/-- Bounds that double, one by one. -/
theorem doublings_eq_sum (n : Nat) {first : Nat} (hfirst : first ≤ Span.maxNanos) :
    doublings n first = ((List.range n).map (ceilingAt first)).sum := by
  induction n generalizing first with
  | zero => rfl
  | succ n ih =>
      have hzero : ceilingAt first 0 = first := by
        rw [ceilingAt, Nat.pow_zero, Nat.mul_one, Nat.min_eq_left hfirst]
      have hshift : (List.range n).map (ceilingAt (min (first * 2) Span.maxNanos))
          = ((List.range n).map Nat.succ).map (ceilingAt first) := by
        rw [List.map_map]
        exact List.map_congr_left fun k _ => ceilingAt_succ first k
      rw [doublings, ih (Nat.min_le_right ..), List.range_succ_eq_map, List.map_cons,
        List.sum_cons, hzero, hshift]

end Backoff

namespace RetryPolicy

/-- **No wait is longer than the schedule allows.** Take any span for a
bound and any draw. The product in seconds is a number that a span can
show, and so is what it rounds to in nanoseconds, which is not more than
the bound.

So let a claimant that comes up make any call, among any surroundings. Its
`k`-th wait, counted from zero, is not longer than the first bound doubled
`k` times, or than the longest span where that is less. All its waits
together are not longer than these bounds together, one for each attempt
but the last. -/
theorem waits_within_bounds :
    (∀ (bound : Span) (draw : Draw),
      bound.product draw < 2 ^ 64 * Magnitude.one
        ∧ bound.fractionNanos draw ≤ Span.maxNanos
        ∧ (bound.fraction draw).nanos = bound.fractionNanos draw
        ∧ bound.fractionNanos draw ≤ bound.nanos)
    ∧ ∀ c : Claimant, c.Formed →
      ∀ (errand : Errand) (σ : Type) (w : Surroundings σ) (s : σ),
        (∀ k delay, (waits (c.contacts errand w s))[k]? = some delay →
          delay.nanos ≤ min (c.policy.firstBound.nanos * 2 ^ k) Span.maxNanos)
        ∧ ((waits (c.contacts errand w s)).map Span.nanos).sum
          ≤ ((List.range (c.policy.tries - 1)).map fun k =>
            min (c.policy.firstBound.nanos * 2 ^ k) Span.maxNanos).sum := by
  refine ⟨fun bound draw => ⟨bound.product_lt_of_le_max draw, ?_, bound.nanos_fraction draw,
    bound.fractionNanos_le draw⟩, fun c formed errand σ w s => ?_⟩
  · exact Nat.le_trans (bound.fractionNanos_le draw) bound.le_max
  · obtain ⟨n, hn, hwaits, -, -⟩ := waits_perform w c errand s
    rw [hwaits, ← formed.firstBound]
    refine ⟨fun k delay h => c.backoff.reset.le_ceilingAt h, ?_⟩
    -- fewer waits have fewer bounds
    obtain ⟨more, hmore⟩ := Nat.exists_eq_add_of_le hn
    rw [hmore, List.range_add, List.map_append, List.sum_append]
    calc ((c.backoff.reset.schedule n).map Span.nanos).sum
        ≤ Backoff.doublings n c.backoff.firstBound.nanos := Backoff.sum_schedule_le _ n
      _ = ((List.range n).map (Backoff.ceilingAt c.backoff.firstBound.nanos)).sum :=
          Backoff.doublings_eq_sum n (Span.le_max _)
      _ ≤ _ := Nat.le_add_right ..

/-- Its second bound is the longest span, and so are all later ones. -/
def aeons : RetryPolicy := ⟨5, Span.ofSeconds (1 <<< 63), by decide, by decide⟩

/-- With the greatest draws the waits are close to these bounds, and none
exceeds its own. -/
theorem waits_within_bounds_aeons :
    aeons.unlucky.Formed
    ∧ (waits (aeons.unlucky.contacts .acquire refusing ())).map Span.seconds
      = [9223372036854774784, 18446744073709549568, 18446744073709549568, 18446744073709549568]
    ∧ ∀ k delay, (waits (aeons.unlucky.contacts .acquire refusing ()))[k]? = some delay →
      delay.nanos ≤ min (aeons.firstBound.nanos * 2 ^ k) Span.maxNanos := by
  refine ⟨aeons.formed_unlucky, ?_, ?_⟩
  · rw [waits_unlucky]
    decide +kernel
  · exact (waits_within_bounds.2 aeons.unlucky aeons.formed_unlucky .acquire Unit refusing ()).1

end RetryPolicy

end FormLease
