import FormLease.Span

/-!
# Backoff

The waits of one claimant. A wait is a random part of the current
bound, and the bound doubles after it. A call starts again from the
first bound; the draws go on where they stopped.
-/

namespace FormLease

structure Backoff where
  firstBound : Span
  currentBound : Span
  /-- The successive draws of the claimant's generator. -/
  draws : Nat → Draw
  /-- How many of them are used up. -/
  drawn : Nat

namespace Backoff

def start (firstBound : Span) (draws : Nat → Draw) : Backoff :=
  ⟨firstBound, firstBound, draws, 0⟩

def reset (b : Backoff) : Backoff := { b with currentBound := b.firstBound }

/-- The next wait, and what is left to wait with after it. -/
def next (b : Backoff) : Span × Backoff :=
  (b.currentBound.fraction (b.draws b.drawn),
    { b with currentBound := b.currentBound.mul 2, drawn := b.drawn + 1 })

end Backoff

/-- The draws of a generator that are known from a list of numerators;
past its end, and where a number is no draw, zero. -/
def Draw.ofList (numerators : List Nat) : Nat → Draw :=
  let known := numerators.toArray
  fun i => Draw.ofNat (known.getD i 0)

end FormLease
