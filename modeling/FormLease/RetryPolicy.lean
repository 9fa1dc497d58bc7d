import FormLease.Fault
import FormLease.Span

/-!
# Retry policies

How often a call tries, and how long it may wait after the first
failure; the bound doubles after each further one. `worstCaseWait` adds
up one bound for each attempt.
-/

namespace FormLease

/-- At least one attempt, and no more than 32 bits can count. -/
structure RetryPolicy where
  tries : Nat
  firstBound : Span
  tries_pos : 0 < tries
  tries_lt : tries < 1 <<< 32
  deriving DecidableEq

namespace RetryPolicy

/-- The greatest factor by which a bound can exceed the first. -/
def maxFactor : Nat := (1 <<< 32) - 1

def standard : RetryPolicy := ⟨4, Span.ofMillis 250, by decide, by decide⟩

/-- The policy of so many attempts; without any there is none. -/
def ofParts (tries : UInt32) (firstBound : Span) : Except LeaseFault RetryPolicy :=
  if h : 0 < tries.toNat then .ok ⟨tries.toNat, firstBound, h, tries.toNat_lt⟩
  else .error (.invalidArgument "tries" "lock policy needs at least one attempt")

/-- The first attempt whose bound has the greatest factor. All later
ones have it too. -/
def settled : Nat := 32

/-- By how much the bound after attempt `i` exceeds the first. -/
def factor (i : Nat) : Nat := if i < settled then 1 <<< i else maxFactor

theorem factor_eq_min (i : Nat) : factor i = min (1 <<< i) maxFactor := by
  have below : ∀ j < settled, 1 <<< j ≤ maxFactor := by decide
  by_cases h : i < settled
  · rw [factor, if_pos h, Nat.min_eq_left (below i h)]
  · have above : maxFactor ≤ 1 <<< i := by
      rw [Nat.one_shiftLeft]
      exact Nat.le_trans (by decide) (Nat.pow_le_pow_right (Nat.succ_pos 1) (Nat.le_of_not_lt h))
    rw [factor, if_neg h, Nat.min_eq_right above]

/-- The bound of the wait after attempt `i`, counted from zero. -/
def bound (p : RetryPolicy) (i : Nat) : Span := p.firstBound.mul (factor i)

/-- `total` and the bounds of `left` attempts from the `i`-th on. -/
def addBounds (p : RetryPolicy) : (left i : Nat) → (total : Span) → Span
  | 0, _, total => total
  | left + 1, i, total => p.addBounds left (i + 1) (total.add (p.bound i))

/-- The sum of one bound for each attempt. -/
def worstCaseWait (p : RetryPolicy) : Span := p.addBounds p.tries 0 Span.zero

example : standard.worstCaseWait = Span.ofMillis 3750 := by decide +kernel

end RetryPolicy

end FormLease
