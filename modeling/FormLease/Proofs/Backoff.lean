import FormLease.Backoff
import FormLease.Proofs.Fraction
import FormLease.Proofs.RetryPolicy

/-!
# Whether a wait stays below its bound

A draw is less than one, so the wait that it picks out of a bound should be
less than the bound. But the wait is rounded to whole nanoseconds. Where half
a nanosecond more than the rounded product would not be below the bound, or
just so at an even number of nanoseconds, the wait is all of the bound
(`Span.FallsShort`).

The greatest draw leaves out one part in 2^53 of a bound. That is less than
half a nanosecond for all bounds that a policy has any use for, so each of
them can be reached. From 97 days on, binary64 numbers are more than a
nanosecond apart. The product is then at least half such a step below the
bound, and no draw reaches it.
-/

namespace FormLease

namespace Span

open Magnitude

/-- The part of the span that the draw picks out is more than half a
nanosecond below it, before it goes to whole nanoseconds, or just as much
below an odd number of them. -/
def FallsShort (s : Span) (draw : Draw) : Prop :=
  2 * (s.product draw * 1000000000) + one < 2 * (s.nanos * one)
    ∨ 2 * (s.product draw * 1000000000) + one = 2 * (s.nanos * one) ∧ s.nanos % 2 = 1

theorem one_pos : 0 < one := Nat.lt_of_lt_of_le (by decide) le_one

theorem fractionNanos_lt_iff (s : Span) (draw : Draw) :
    s.fractionNanos draw < s.nanos ↔ s.FallsShort draw :=
  nearestEven_lt_iff one_pos

theorem fractionNanos_greatest {s : Span} (h : s.nanos < 2 ^ 49) :
    s.fractionNanos greatest = s.nanos := by
  have hnear := s.le_fractionNanos_greatest
  have hle := s.fractionNanos_le greatest
  omega

/-! ## Long spans -/

/-- The last place of so many seconds is more than a nanosecond. -/
theorem one_le_lastPlace {w : Nat} (h : 2 ^ 23 * one ≤ w) : one ≤ 2 ^ 29 * lastPlace w := by
  obtain ⟨k, hk⟩ := exists_one_eq
  have hstart : 2 ^ 23 * one = 2 ^ (52 + (24 + k)) := by
    rw [hk]
    ring
  have hplace : lastPlace (2 ^ 23 * one) = 2 ^ (24 + k) := by
    rw [hstart]
    exact lastPlace_of_bounds (Nat.le_refl _) (Nat.pow_lt_pow_right (by decide) (by omega))
  have hle := Nat.le_of_dvd (lastPlace_pos w) (lastPlace_dvd h)
  calc one = 2 ^ 29 * 2 ^ (24 + k) := by rw [hk]; ring
    _ ≤ 2 ^ 29 * lastPlace w := Nat.mul_le_mul_left _ (hplace ▸ hle)

/-- The span in seconds is rounded once more from a number that is hardly
longer than the span. -/
theorem exists_binarySeconds_eq {s : Span} (h : 2 ^ 23 ≤ s.seconds) :
    ∃ w, s.binarySeconds = nearest w 1 ∧ 2 ^ 23 * one ≤ w
      ∧ 2 ^ 54 * (1000000000 * w) ≤ 2 ^ 54 * (s.nanos * one) + 1000000000 * one := by
  have hnanos := s.nanos_mul_one
  have hseconds : 2 ^ 23 * one ≤ s.seconds * one := Nat.mul_le_mul_right one h
  rcases Nat.lt_or_ge s.seconds (2 ^ 53) with hfew | hmany
  · have herror := s.ofRatio_le
    have hexact := ofNat_of_lt hfew
    exact ⟨_, s.binarySeconds_eq, by omega, by omega⟩
  · exact ⟨_, s.binarySeconds_of_le hmany, hseconds, by omega⟩

theorem fallsShort_of_le {s : Span} (h : 2 ^ 23 ≤ s.seconds) (draw : Draw) : s.FallsShort draw := by
  have hone := le_one
  obtain ⟨w, hw, hwide, hspan⟩ := exists_binarySeconds_eq h
  have hplace := one_le_lastPlace hwide
  have hpos : 0 < s.nanos := by
    have hnanos := s.nanos_eq
    omega
  have hlt := product_lt (Nat.le_trans (by decide) (s.le_binarySeconds hpos)) draw
  rw [hw] at hlt
  have hstep := two_mul_add_lastPlace_le (by omega) (s.onGrid_product draw) hlt
  exact Or.inl (by omega)

end Span

namespace Backoff

/-- **Which waits are below their bound.** A wait is less than the bound it is
drawn from exactly if the part in seconds falls short of the bound by more than
half a nanosecond, or by half a nanosecond and the bound is an odd number of
them. From 2^23 seconds on this is so for every draw. Below 2^49 nanoseconds the
greatest draw gives all of the bound. -/
theorem next_lt_bound_iff (b : Backoff) :
    (b.next.1.nanos < b.currentBound.nanos ↔ b.currentBound.FallsShort (b.draws b.drawn))
    ∧ (2 ^ 23 ≤ b.currentBound.seconds → b.next.1.nanos < b.currentBound.nanos)
    ∧ (b.currentBound.nanos < 2 ^ 49 → b.draws b.drawn = Span.greatest →
      b.next.1 = b.currentBound) := by
  have hnext : b.next.1.nanos = b.currentBound.fractionNanos (b.draws b.drawn) :=
    b.currentBound.nanos_fraction (b.draws b.drawn)
  refine ⟨?_, fun hlong => ?_, fun hshort hdraw => ?_⟩
  · rw [hnext, Span.fractionNanos_lt_iff]
  · rw [hnext, Span.fractionNanos_lt_iff]
    exact Span.fallsShort_of_le hlong _
  · rw [hdraw, Span.fractionNanos_greatest hshort] at hnext
    rw [← Span.ofNanos_nanos b.next.1, hnext, Span.ofNanos_nanos]

/-- A nanosecond is drawn from a bound of one, and the greatest draw gives all
of the first bound of the standard policy. -/
theorem next_reaches_bound :
    let brief := start (Span.ofNanos 1) (Draw.ofList [8812511774861324])
    let standard := start RetryPolicy.standard.firstBound fun _ => Span.greatest
    ¬ brief.next.1.nanos < brief.currentBound.nanos
    ∧ brief.next.1.nanos = 1 ∧ brief.currentBound.nanos = 1
    ∧ standard.next.1 = Span.ofMillis 250 ∧ standard.currentBound = Span.ofMillis 250 := by
  refine ⟨?_, ?_, ?_, ?_, ?_⟩
  all_goals decide +kernel

end Backoff

end FormLease
