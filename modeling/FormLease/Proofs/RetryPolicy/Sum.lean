import FormLease.Proofs.Fraction
import FormLease.Proofs.RetryPolicy

/-!
# What the announced ceiling comes to

The ceiling of a policy is computed with three kinds of cuts: the factor of a
bound stops growing, a bound stops at the longest span, and so does each sum.
Only the first one is seen in the result. A span that is cut off has become
the longest one, and whatever is added to that in whatever order, it stays
(`Span.AddsTo.eq`). So the result is the number of first bounds in the ceiling
times the first bound, cut off once, and the number is known: the factors are
the powers of two up to the 32nd, and from there on they are all the same
(`weight_of_le`, `weight_of_settled`).

Where spans are kept as whole seconds and the nanoseconds beyond them, sums
and products carry from one to the other. That gives the same spans
(`Span.parts_add`, `Span.parts_mul`), so it gives the same ceiling.
-/

namespace FormLease

namespace Span

/-! ## In any order -/

/-- The spans, in this order, come to this sum if they are added up two sums
at a time, however they are grouped. -/
inductive AddsTo : List Span → Span → Prop where
  | none : AddsTo [] zero
  | one (s : Span) : AddsTo [s] s
  | both {xs ys : List Span} {a b : Span} (left : AddsTo xs a) (right : AddsTo ys b) :
    AddsTo (xs ++ ys) (a.add b)

theorem AddsTo.eq {spans : List Span} {sum : Span} (h : AddsTo spans sum) :
    sum = ofNanos (spans.map nanos).sum := by
  induction h with
  | none => rfl
  | one s => exact (ofNanos_nanos s).symm
  | both _ _ iha ihb => rw [iha, ihb, add_ofNanos, List.map_append, List.sum_append]

/-! ## In seconds and nanoseconds -/

/-- A span as whole seconds, of 64 bits, and the nanoseconds beyond them. -/
structure Parts where
  seconds : Nat
  beyond : Nat
  seconds_lt : seconds < 1 <<< 64
  beyond_lt : beyond < 1000000000

namespace Parts

def zero : Parts := ⟨0, 0, by decide, by decide⟩

def longest : Parts := ⟨(1 <<< 64) - 1, 999999999, by decide, by decide⟩

/-- So many seconds and more nanoseconds than may stand beside them. -/
def carried (seconds beyond : Nat) : Parts :=
  if h : seconds + beyond / 1000000000 < 1 <<< 64 then
    ⟨seconds + beyond / 1000000000, beyond % 1000000000, h, Nat.mod_lt _ (by decide)⟩
  else longest

def add (a b : Parts) : Parts := carried (a.seconds + b.seconds) (a.beyond + b.beyond)

def mul (a : Parts) (k : Nat) : Parts := carried (a.seconds * k) (a.beyond * k)

end Parts

def parts (s : Span) : Parts where
  seconds := s.seconds
  beyond := s.subsecNanos
  seconds_lt := by
    have hmax : s.nanos ≤ (1 <<< 64) * 1000000000 - 1 := s.le_max
    unfold seconds
    omega
  beyond_lt := Nat.mod_lt _ (by decide)

theorem parts_ofNanos (seconds beyond : Nat) :
    (ofNanos (seconds * 1000000000 + beyond)).parts = Parts.carried seconds beyond := by
  have hmax : maxNanos = (1 <<< 64) * 1000000000 - 1 := rfl
  unfold Parts.carried
  split
  · next h =>
      simp only [parts, Span.seconds, subsecNanos, nanos_ofNanos, Parts.mk.injEq]
      omega
  · next h =>
      simp only [parts, Span.seconds, subsecNanos, nanos_ofNanos, Parts.longest, Parts.mk.injEq]
      omega

theorem parts_add (a b : Span) : (a.add b).parts = a.parts.add b.parts := by
  have hnanos : a.nanos + b.nanos
      = (a.seconds + b.seconds) * 1000000000 + (a.subsecNanos + b.subsecNanos) := by
    rw [a.nanos_eq, b.nanos_eq]
    omega
  rw [add, hnanos, parts_ofNanos]
  rfl

theorem parts_mul (s : Span) (k : Nat) : (s.mul k).parts = s.parts.mul k := by
  have hnanos : s.nanos * k = s.seconds * k * 1000000000 + s.subsecNanos * k := by
    rw [s.nanos_eq, Nat.add_mul, Nat.mul_right_comm]
  rw [mul, hnanos, parts_ofNanos]
  rfl

theorem parts_foldl (spans : List Span) (s : Span) :
    (spans.foldl add s).parts = (spans.map parts).foldl Parts.add s.parts := by
  induction spans generalizing s with
  | nil => rfl
  | cons first spans ih => rw [List.foldl_cons, ih, parts_add, List.map_cons, List.foldl_cons]

end Span

namespace RetryPolicy

/-! ## The weight in closed form -/

theorem weight_of_le {n : Nat} (h : n ≤ settled) : weight n = 2 ^ n - 1 := by
  induction n with
  | zero => rfl
  | succ n ih =>
      have hpow := Nat.two_pow_pos n
      have hlt : n < settled := h
      rw [weight, ih (Nat.le_of_lt hlt), factor, if_pos hlt, Nat.one_shiftLeft, Nat.pow_succ]
      omega

theorem weight_of_settled (more : Nat) : weight (settled + more) = maxFactor * (more + 1) := by
  induction more with
  | zero => rw [Nat.add_zero, weight_of_le (Nat.le_refl _)]; rfl
  | succ more ih =>
      have hsettled : ¬ settled + more < settled := by omega
      rw [← Nat.add_assoc, weight, ih, factor, if_neg hsettled, ← Nat.mul_succ]

theorem weight_mono {m n : Nat} (h : m ≤ n) : weight m ≤ weight n := by
  induction n, h using Nat.le_induction with
  | base => exact Nat.le_refl _
  | succ n _ ih => exact Nat.le_trans ih (Nat.le_add_right ..)

/-! ## The ceiling as a sum -/

variable (p : RetryPolicy)

theorem addBounds_eq_foldl (left i : Nat) (total : Span) :
    p.addBounds left i total = ((List.range' i left).map p.bound).foldl Span.add total := by
  induction left generalizing i total with
  | zero => rfl
  | succ left ih => rw [addBounds, ih, List.range'_succ, List.map_cons, List.foldl_cons]

theorem worstCaseWait_eq_total :
    p.worstCaseWait = Span.total ((List.range p.tries).map p.bound) := by
  rw [worstCaseWait, addBounds_eq_foldl, List.range_eq_range', Span.total]

/-- The same sum, with everything kept in seconds and nanoseconds. -/
def ceilingInParts : Span.Parts :=
  ((List.range p.tries).map fun i => p.firstBound.parts.mul (min (2 ^ i) maxFactor)).foldl
    Span.Parts.add Span.Parts.zero

theorem parts_worstCaseWait : p.worstCaseWait.parts = p.ceilingInParts := by
  have hbound : Span.parts ∘ p.bound = fun i => p.firstBound.parts.mul (min (2 ^ i) maxFactor) := by
    funext i
    rw [Function.comp_apply, bound, Span.parts_mul, factor_eq_min, Nat.one_shiftLeft]
  rw [worstCaseWait_eq_total, Span.total, Span.parts_foldl, List.map_map, hbound]
  rfl

/-- **What the announced ceiling comes to.** Up to 32 attempts it is the first
bound times one less than a power of two; each further attempt adds the first
bound times the greatest factor. This true sum is cut off once, at the longest
span, and nothing else is lost: not where spans are kept as seconds and
nanoseconds, and not if the bounds of the attempts are added up in another
order or grouped in another way. More attempts or a longer first bound never
bring the ceiling down. -/
theorem worstCaseWait_value :
    (∀ p : RetryPolicy, p.worstCaseWait.nanos
      = if p.tries ≤ 32 then min (p.firstBound.nanos * (2 ^ p.tries - 1)) Span.maxNanos
        else min (p.firstBound.nanos * (2 ^ 32 - 1) * (p.tries - 31)) Span.maxNanos)
    ∧ (∀ p : RetryPolicy, p.worstCaseWait.parts = p.ceilingInParts)
    ∧ (∀ (p : RetryPolicy) (bounds : List Span) (sum : Span),
      bounds.Perm ((List.range p.tries).map p.bound) → Span.AddsTo bounds sum →
        sum = p.worstCaseWait)
    ∧ ∀ p q : RetryPolicy, p.tries ≤ q.tries → p.firstBound.nanos ≤ q.firstBound.nanos →
      p.worstCaseWait.nanos ≤ q.worstCaseWait.nanos := by
  refine ⟨fun p => ?_, parts_worstCaseWait, fun p bounds sum hperm hadds => ?_,
    fun p q htries hfirst => ?_⟩
  · rw [worstCaseWait_eq, Span.nanos_ofNanos]
    split
    · next hfew => rw [weight_of_le hfew]
    · next hmany =>
        obtain ⟨more, hmore⟩ := Nat.exists_eq_add_of_le (Nat.le_of_not_le hmany)
        have hlast : 32 + more - 31 = more + 1 := by omega
        have hweight : weight (32 + more) = (2 ^ 32 - 1) * (more + 1) := weight_of_settled more
        rw [hmore, hlast, hweight, Nat.mul_assoc]
  · rw [hadds.eq, worstCaseWait_eq_total, Span.total_eq, (hperm.map Span.nanos).sum_nat]
  · rw [worstCaseWait_eq, worstCaseWait_eq, Span.nanos_ofNanos, Span.nanos_ofNanos]
    have hmul := Nat.mul_le_mul hfirst (weight_mono htries)
    omega

/-- Its bounds are a nanosecond or two short of whole seconds. -/
def nearSeconds : RetryPolicy := ⟨3, Span.ofNanos 999999999, by decide, by decide⟩

/-- Its last two bounds have the same factor. -/
def pastSettled : RetryPolicy := ⟨33, Span.ofNanos 999999999, by decide, by decide⟩

/-- The three bounds from the last to the first, and thirty attempts more. -/
theorem worstCaseWait_value_carries :
    let bounds := [nearSeconds.bound 2, nearSeconds.bound 1, nearSeconds.bound 0]
    let sum := (nearSeconds.bound 2).add ((nearSeconds.bound 1).add (nearSeconds.bound 0))
    bounds.Perm ((List.range nearSeconds.tries).map nearSeconds.bound)
    ∧ Span.AddsTo bounds sum
    ∧ sum = nearSeconds.worstCaseWait ∧ nearSeconds.worstCaseWait.nanos = 6999999993
    ∧ nearSeconds.tries ≤ pastSettled.tries
    ∧ nearSeconds.firstBound.nanos ≤ pastSettled.firstBound.nanos
    ∧ nearSeconds.worstCaseWait.nanos ≤ pastSettled.worstCaseWait.nanos
    ∧ pastSettled.worstCaseWait.nanos = 999999999 * (2 ^ 32 - 1) * 2 := by
  intro bounds sum
  have hperm : bounds.Perm ((List.range nearSeconds.tries).map nearSeconds.bound) :=
    List.reverse_perm [nearSeconds.bound 0, nearSeconds.bound 1, nearSeconds.bound 2]
  have hadds : Span.AddsTo bounds sum := .both (.one _) (.both (.one _) (.one _))
  have htries : nearSeconds.tries ≤ pastSettled.tries := by decide
  have hfirst : nearSeconds.firstBound.nanos ≤ pastSettled.firstBound.nanos := Nat.le_refl _
  refine ⟨hperm, hadds, worstCaseWait_value.2.2.1 nearSeconds bounds sum hperm hadds, ?_, htries,
    hfirst, worstCaseWait_value.2.2.2 nearSeconds pastSettled htries hfirst, ?_⟩
  · rw [worstCaseWait_value.1 nearSeconds]
    decide +kernel
  · rw [worstCaseWait_value.1 pastSettled]
    decide +kernel

end RetryPolicy

end FormLease
