import FormLease.RetryPolicy
import Mathlib.Algebra.GroupWithZero.Nat

/-!
# What a policy adds up to

Sums of spans stop at the longest one, and where they stop does not
matter: adding up span by span gives the true sum, cut off once
(`Span.total_eq`). So the announced ceiling of a policy is its first
bound times the number `RetryPolicy.weight` of first bounds in it
(`RetryPolicy.worstCaseWait_eq`).
-/

namespace FormLease

namespace Span

theorem nanos_ofNanos (n : Nat) : (ofNanos n).nanos = min n maxNanos := rfl

theorem ofNanos_nanos (s : Span) : ofNanos s.nanos = s := by
  obtain ⟨n, hn⟩ := s
  simp only [ofNanos, Nat.min_eq_left hn]

theorem ofNanos_min (n : Nat) : ofNanos (min n maxNanos) = ofNanos n := by
  simp only [ofNanos, Nat.min_assoc, Nat.min_self]

theorem ofNanos_of_le {n : Nat} (h : maxNanos ≤ n) : ofNanos n = longest := by
  rw [← ofNanos_min, Nat.min_eq_right h]
  rfl

theorem nanos_pos {s : Span} (h : s ≠ zero) : 0 < s.nanos := by
  refine Nat.pos_of_ne_zero fun hzero => h ?_
  rw [← ofNanos_nanos s, hzero]
  rfl

/-- Cutting off before an addition is the same as cutting off after it. -/
theorem add_ofNanos (a b : Nat) : (ofNanos a).add (ofNanos b) = ofNanos (a + b) := by
  have hcut : min (min a maxNanos + min b maxNanos) maxNanos = min (a + b) maxNanos := by omega
  rw [add, nanos_ofNanos, nanos_ofNanos, ← ofNanos_min, hcut, ofNanos_min]

/-- The sum of these spans, or the longest one. -/
def total (spans : List Span) : Span := spans.foldl add zero

theorem foldl_add (spans : List Span) (n : Nat) :
    spans.foldl add (ofNanos n) = ofNanos (n + (spans.map nanos).sum) := by
  induction spans generalizing n with
  | nil => rfl
  | cons s spans ih =>
      have hs := add_ofNanos n s.nanos
      rw [ofNanos_nanos] at hs
      rw [List.foldl_cons, hs, ih, List.map_cons, List.sum_cons, Nat.add_assoc]

theorem total_eq (spans : List Span) : total spans = ofNanos (spans.map nanos).sum := by
  have hfold := foldl_add spans 0
  rw [Nat.zero_add] at hfold
  exact hfold

end Span

namespace RetryPolicy

/-- How many times the first bound is in the bounds of `n` attempts. -/
def weight : Nat → Nat
  | 0 => 0
  | n + 1 => weight n + factor n

theorem addBounds_eq (p : RetryPolicy) (left i : Nat) :
    p.addBounds left i (Span.ofNanos (p.firstBound.nanos * weight i))
      = Span.ofNanos (p.firstBound.nanos * weight (i + left)) := by
  induction left generalizing i with
  | zero => rfl
  | succ left ih =>
      have hnext : (Span.ofNanos (p.firstBound.nanos * weight i)).add (p.bound i)
          = Span.ofNanos (p.firstBound.nanos * weight (i + 1)) := by
        rw [bound, Span.mul, Span.add_ofNanos, weight, Nat.mul_add]
      rw [addBounds, hnext, ih, Nat.add_assoc, Nat.add_comm 1]

/-- The announced ceiling is one product, cut off once. -/
theorem worstCaseWait_eq (p : RetryPolicy) :
    p.worstCaseWait = Span.ofNanos (p.firstBound.nanos * weight p.tries) := by
  have hsum := p.addBounds_eq p.tries 0
  rw [Nat.zero_add] at hsum
  exact hsum

end RetryPolicy

end FormLease
