import FormLease.Proofs.Rounding
import FormLease.Span

/-!
# The random part of a span

A draw is less than one, and the part of a span that it picks out is
rounded four times: the whole seconds, the nanoseconds beyond them, their
sum, and the product with the draw, which then goes to whole nanoseconds.
That the part is not longer than the span (`fraction_le`) is therefore not
plain. It rests on the product being less than the rounded sum, strictly
and on the grid, so that it is less than the sum before rounding as well.
The greatest draw comes close to the whole (`fraction_greatest`).
-/

namespace FormLease

namespace Span

open Magnitude

/-- One has far more than 53 digits, all but the first of them zero. -/
theorem exists_one_eq : ∃ k, one = 2 ^ (53 + k) := by
  obtain ⟨k, hk⟩ : ∃ k, 1074 = 53 + k := ⟨1021, rfl⟩
  refine ⟨k, ?_⟩
  rw [← hk, one]
  -- the power itself is too long to be written out
  generalize 1074 = n
  exact Nat.one_shiftLeft n

theorem le_one : 2 ^ 200 * 1000000000 ≤ one := by decide +kernel

theorem onGrid_mul_one {m : Nat} (h : m ≤ 2 ^ 53) : OnGrid (m * one) := by
  obtain ⟨k, hk⟩ := exists_one_eq
  rw [hk]
  exact onGrid_mul h

/-! ## A span in seconds -/

section Seconds

variable (s : Span)

theorem nanos_eq : s.nanos = s.seconds * 1000000000 + s.subsecNanos := by
  have hdiv := Nat.div_add_mod s.nanos 1000000000
  unfold seconds subsecNanos
  omega

theorem nanos_mul_one :
    s.nanos * one = 1000000000 * (s.seconds * one) + s.subsecNanos * one := by
  rw [s.nanos_eq]
  ring

theorem subsecNanos_lt : s.subsecNanos < 1000000000 := Nat.mod_lt _ (by decide)

theorem binarySeconds_eq : s.binarySeconds
    = nearest (Magnitude.ofNat s.seconds + ofRatio s.subsecNanos 1000000000) 1 := rfl

theorem onGrid_binarySeconds : OnGrid s.binarySeconds := onGrid_nearest _ Nat.one_pos

/-- Seconds of 53 digits are exact. -/
theorem ofNat_of_lt {n : Nat} (h : n < 2 ^ 53) : Magnitude.ofNat n = n * one :=
  nearest_of_onGrid (onGrid_mul_one (Nat.le_of_lt h))

/-- The nanoseconds beyond the seconds are off by half of the last place
below one at most. -/
theorem ofRatio_le : 2 ^ 54 * (1000000000 * ofRatio s.subsecNanos 1000000000)
    ≤ 2 ^ 54 * (s.subsecNanos * one) + 1000000000 * one := by
  obtain ⟨k, hk⟩ := exists_one_eq
  have hone : 0 < one := hk ▸ Nat.two_pow_pos _
  have hlt : s.subsecNanos * one / 1000000000 < 2 ^ (53 + k) := by
    rw [← hk]
    refine (Nat.div_lt_iff_lt_mul (by decide)).mpr ?_
    rw [Nat.mul_comm one]
    exact Nat.mul_lt_mul_of_pos_right s.subsecNanos_lt hone
  have hplace := Nat.le_of_dvd (Nat.two_pow_pos k) (lastPlace_of_lt hlt)
  have hbillion : 0 < 1000000000 := by decide
  have herror := (nearest_error (s.subsecNanos * one) hbillion).2
  have hwider := Nat.mul_le_mul_left 1000000000 hplace
  rw [Nat.pow_add] at hk
  unfold ofRatio
  omega

theorem ofRatio_lt_one : ofRatio s.subsecNanos 1000000000 < one := by
  have herror := s.ofRatio_le
  have hlt : (s.subsecNanos + 1) * one ≤ 1000000000 * one :=
    Nat.mul_le_mul_right one s.subsecNanos_lt
  have hone := le_one
  rw [Nat.add_mul, Nat.one_mul] at hlt
  omega

/-- Beyond 53 digits of seconds the nanoseconds are lost. -/
theorem binarySeconds_of_le (h : 2 ^ 53 ≤ s.seconds) :
    s.binarySeconds = Magnitude.ofNat s.seconds := by
  have hgrid : OnGrid (2 ^ 53 * one) := onGrid_mul_one (Nat.le_refl _)
  have hle : 2 ^ 53 * one ≤ Magnitude.ofNat s.seconds :=
    le_nearest Nat.one_pos hgrid (by rw [Nat.mul_one]; exact Nat.mul_le_mul_right one h)
  have hplace : lastPlace (2 ^ 53 * one) = 2 * one := by
    obtain ⟨k, hk⟩ := exists_one_eq
    have heq : 2 ^ 53 * one = 2 ^ (52 + (54 + k)) := by
      rw [hk]
      ring
    rw [heq, lastPlace_of_bounds (Nat.le_refl _) (Nat.pow_lt_pow_right (by decide) (by omega)), hk]
    ring
  have hwide := Nat.le_of_dvd (lastPlace_pos _) (lastPlace_dvd hle)
  have hlt := s.ofRatio_lt_one
  exact nearest_add (onGrid_nearest _ Nat.one_pos) (by omega)

/-- A span that is not empty has far more than 53 digits in seconds. -/
theorem le_sum (h : 0 < s.nanos) :
    2 ^ 200 ≤ Magnitude.ofNat s.seconds + ofRatio s.subsecNanos 1000000000 := by
  have hgrid : OnGrid (2 ^ 200) := Nat.one_mul (2 ^ 200) ▸ onGrid_mul (m := 1) (by decide)
  have hone := le_one
  have hnanos := s.nanos_eq
  rcases Nat.eq_zero_or_pos s.seconds with hzero | hpos
  · have hpos : 1 ≤ s.subsecNanos := by omega
    have hle : 2 ^ 200 ≤ ofRatio s.subsecNanos 1000000000 :=
      le_nearest (by decide) hgrid (Nat.le_trans hone (Nat.le_mul_of_pos_left one hpos))
    exact Nat.le_trans hle (Nat.le_add_left ..)
  · have hle : 2 ^ 200 ≤ Magnitude.ofNat s.seconds := by
      refine le_nearest Nat.one_pos hgrid ?_
      have hmul : one ≤ s.seconds * one := Nat.le_mul_of_pos_left one hpos
      omega
    exact Nat.le_trans hle (Nat.le_add_right ..)

theorem le_binarySeconds (h : 0 < s.nanos) : 2 ^ 200 ≤ s.binarySeconds := by
  have hgrid : OnGrid (2 ^ 200) := Nat.one_mul (2 ^ 200) ▸ onGrid_mul (m := 1) (by decide)
  exact le_nearest Nat.one_pos hgrid (by rw [Nat.mul_one]; exact s.le_sum h)

end Seconds

/-! ## A part of a span -/

/-- The product of a span in seconds with a draw, before it goes to whole
nanoseconds. -/
def product (s : Span) (draw : Draw) : Nat :=
  nearest (s.binarySeconds * draw.val) (2 ^ 53)

theorem onGrid_product (s : Span) (draw : Draw) : OnGrid (s.product draw) :=
  onGrid_nearest _ (Nat.two_pow_pos 53)

theorem product_le (s : Span) (draw : Draw) : s.product draw ≤ s.binarySeconds :=
  nearest_le (Nat.two_pow_pos 53) s.onGrid_binarySeconds
    (Nat.mul_le_mul_left _ (Nat.le_of_lt draw.isLt))

theorem product_lt {s : Span} (h : 2 ^ 53 ≤ s.binarySeconds) (draw : Draw) :
    s.product draw < s.binarySeconds :=
  nearest_part_lt s.onGrid_binarySeconds h draw.isLt

/-- The product does not exceed the seconds before their sum is rounded. -/
theorem product_le_sum (s : Span) (draw : Draw) :
    s.product draw ≤ Magnitude.ofNat s.seconds + ofRatio s.subsecNanos 1000000000 := by
  rcases Nat.lt_or_ge s.binarySeconds (2 ^ 53) with hfew | hwide
  · -- so few units are added without rounding
    have hsum : Magnitude.ofNat s.seconds + ofRatio s.subsecNanos 1000000000 < 2 ^ 53 := by
      refine Nat.lt_of_not_le fun hle => Nat.not_le_of_lt hfew ?_
      exact le_nearest Nat.one_pos (onGrid_of_le (Nat.le_refl _)) (by omega)
    have hexact := nearest_of_onGrid (onGrid_of_le (Nat.le_of_lt hsum))
    rw [← binarySeconds_eq] at hexact
    exact hexact ▸ s.product_le draw
  · have hlt := lt_of_lt_nearest Nat.one_pos (s.onGrid_product draw) (product_lt hwide draw)
    omega

theorem fractionNanos_le (s : Span) (draw : Draw) : s.fractionNanos draw ≤ s.nanos := by
  have hmul := s.nanos_mul_one
  have hmiddle : (2 * s.nanos + 1) * one = 2 * (s.nanos * one) + one := by ring
  have hone := le_one
  refine nearestEven_le_of_lt ?_
  rw [hmiddle]
  change 2 * (s.product draw * 1000000000) < _
  rcases Nat.lt_or_ge s.seconds (2 ^ 53) with hfew | hmany
  · have hle := s.product_le_sum draw
    have herror := s.ofRatio_le
    rw [ofNat_of_lt hfew] at hle
    omega
  · -- there are no nanoseconds in the product, and the seconds are whole
    have hpos : 0 < s.nanos := by
      have hnanos := s.nanos_eq
      omega
    have hlt := product_lt (Nat.le_trans (by decide) (s.le_binarySeconds hpos)) draw
    rw [s.binarySeconds_of_le hmany] at hlt
    have hlt := lt_of_lt_nearest Nat.one_pos (s.onGrid_product draw) hlt
    omega

def greatest : Draw := ⟨2 ^ 53 - 1, by decide⟩

/-- Something times one is nothing, or it has all the digits. -/
theorem mul_one_cases (n : Nat) : n * one = 0 ∨ 2 ^ 52 * 1000000000 ≤ n * one := by
  have hone := le_one
  rcases Nat.eq_zero_or_pos n with hzero | hpos
  · exact Or.inl (by rw [hzero, Nat.zero_mul])
  · have hle := Nat.le_mul_of_pos_left one hpos
    exact Or.inr (by omega)

/-- The seconds keep all but one part in 2^53 of the whole when their two
parts are rounded, and all but one more when the sum is. -/
theorem le_binarySeconds_of_pos (s : Span) (h : 0 < s.nanos) :
    (2 ^ 53 - 1) * ((2 ^ 53 - 1) * (s.nanos * one))
      ≤ 2 ^ 53 * (2 ^ 53 * (1000000000 * s.binarySeconds)) := by
  have hmul := s.nanos_mul_one
  have hseconds : (2 ^ 53 - 1) * (s.seconds * one) ≤ 2 ^ 53 * (1 * Magnitude.ofNat s.seconds) :=
    nearest_lower Nat.one_pos ((mul_one_cases s.seconds).imp_right fun hle => by omega)
  have hsubsec : (2 ^ 53 - 1) * (s.subsecNanos * one)
      ≤ 2 ^ 53 * (1000000000 * ofRatio s.subsecNanos 1000000000) :=
    nearest_lower (by decide) (mul_one_cases s.subsecNanos)
  have hsum : (2 ^ 53 - 1) * (Magnitude.ofNat s.seconds + ofRatio s.subsecNanos 1000000000)
      ≤ 2 ^ 53 * (1 * s.binarySeconds) := by
    have hwide := s.le_sum h
    exact nearest_lower Nat.one_pos (Or.inr (by omega))
  omega

/-- With the greatest draw hardly anything is missing. -/
theorem le_fractionNanos_greatest (s : Span) :
    2 ^ 49 * s.nanos ≤ 2 ^ 49 * s.fractionNanos greatest + s.nanos := by
  rcases Nat.eq_zero_or_pos s.nanos with hzero | hpos
  · omega
  · have hone := le_one
    have hseconds := s.le_binarySeconds_of_pos hpos
    have hproduct : (2 ^ 53 - 1) * (s.binarySeconds * (2 ^ 53 - 1))
        ≤ 2 ^ 53 * (2 ^ 53 * s.product greatest) := by
      have hwide := s.le_binarySeconds hpos
      exact nearest_lower (Nat.two_pow_pos 53) (Or.inr (by omega))
    have hnearest : 2 * (s.product greatest * 1000000000)
        ≤ 2 * (s.fractionNanos greatest * one) + one :=
      (nearestEven_error (s.product greatest * 1000000000) (by omega)).1
    -- the draw itself and the three roundings leave out four parts in 2^53
    have hchain : 2 * ((2 ^ 53 - 4) * (s.nanos * one))
        ≤ 2 ^ 53 * (2 * (s.fractionNanos greatest * one) + one) := by
      omega
    have hnanos : 2 * ((2 ^ 53 - 4) * s.nanos) ≤ 2 ^ 53 * (2 * s.fractionNanos greatest + 1) := by
      refine Nat.le_of_mul_le_mul_right (c := one) ?_ (by omega)
      rw [Nat.mul_assoc 2, Nat.mul_assoc _ s.nanos, Nat.mul_assoc _ _ one, Nat.add_mul,
        Nat.one_mul, Nat.mul_assoc 2]
      exact hchain
    -- a whole nanosecond is missing only where it counts for little
    rcases Nat.lt_or_ge (s.fractionNanos greatest) s.nanos with hless | hall
    · omega
    · omega

/-! ## Parts as spans -/

theorem nanos_fraction (s : Span) (draw : Draw) :
    (s.fraction draw).nanos = s.fractionNanos draw :=
  Nat.min_eq_left (Nat.le_trans (s.fractionNanos_le draw) s.le_max)

/-- **No part is longer than the whole**, however it is rounded. -/
theorem fraction_le (s : Span) (draw : Draw) : (s.fraction draw).nanos ≤ s.nanos := by
  rw [nanos_fraction]
  exact s.fractionNanos_le draw

end Span

end FormLease
