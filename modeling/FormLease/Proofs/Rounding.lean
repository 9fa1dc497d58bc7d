import FormLease.Magnitude
import Mathlib.Tactic.Ring

/-!
# How far rounding goes

`nearestEven` is off by half a step at most, and everything here comes
from that. The grid of binary64 magnitudes has wider steps further up:
`OnGrid` says that a magnitude is on it. Rounding stays on the grid
(`onGrid_nearest`), never passes a magnitude that the exact quotient does
not pass (`nearest_le`), and loses at most one part in 2^53 of a quotient
that has 53 significant digits (`nearest_lower`).
-/

namespace FormLease

/-! ## To whole numbers -/

/-- Below the middle down, above it up, and in the middle to the even side. -/
theorem nearestEven_cases (num den : Nat) :
    2 * (num % den) < den ∧ nearestEven num den = num / den
    ∨ den < 2 * (num % den) ∧ nearestEven num den = num / den + 1
    ∨ 2 * (num % den) = den ∧ nearestEven num den = num / den + num / den % 2 := by
  simp only [nearestEven]
  split
  · omega
  · split
    · omega
    · split <;> omega

theorem nearestEven_error (num : Nat) {den : Nat} (hden : 0 < den) :
    2 * num ≤ 2 * (nearestEven num den * den) + den
      ∧ 2 * (nearestEven num den * den) ≤ 2 * num + den := by
  have hdiv := Nat.div_add_mod num den
  have hmod := Nat.mod_lt num hden
  have hwhole : den * (num / den) = num / den * den := Nat.mul_comm ..
  have hnext : (num / den + 1) * den = num / den * den + den := Nat.succ_mul ..
  rcases nearestEven_cases num den with ⟨hbelow, hdown⟩ | ⟨habove, hup⟩ | ⟨hmiddle, heven⟩
  · rw [hdown]
    omega
  · rw [hup]
    omega
  · rw [heven]
    rcases Nat.mod_two_eq_zero_or_one (num / den) with hzero | hone
    · rw [hzero, Nat.add_zero]
      omega
    · rw [hone]
      omega

/-- Nothing that is half a step below the middle of `k` and `k + 1` is
rounded past `k`. -/
theorem nearestEven_le_of_lt {num den k : Nat} (h : 2 * num < (2 * k + 1) * den) :
    nearestEven num den ≤ k := by
  have hden : 0 < den := Nat.pos_of_ne_zero fun hzero => by
    rw [hzero, Nat.mul_zero] at h
    exact Nat.not_lt_zero _ h
  refine Nat.le_of_not_lt fun hlt => ?_
  have herror := (nearestEven_error num hden).2
  have hnext : (k + 1) * den ≤ nearestEven num den * den := Nat.mul_le_mul_right den hlt
  have hk : (k + 1) * den = k * den + den := by ring
  have hmiddle : (2 * k + 1) * den = 2 * (k * den) + den := by ring
  omega

theorem nearestEven_le {num den k : Nat} (hden : 0 < den) (h : num ≤ k * den) :
    nearestEven num den ≤ k := by
  refine nearestEven_le_of_lt ?_
  have hmiddle : (2 * k + 1) * den = 2 * (k * den) + den := by ring
  omega

theorem le_nearestEven {num den k : Nat} (hden : 0 < den) (h : k * den ≤ num) :
    k ≤ nearestEven num den := by
  refine Nat.le_of_not_lt fun hlt => ?_
  have herror := (nearestEven_error num hden).1
  have hnext : (nearestEven num den + 1) * den ≤ k * den := Nat.mul_le_mul_right den hlt
  have hsucc : (nearestEven num den + 1) * den = nearestEven num den * den + den := by ring
  omega

/-- Rounding stays below `k` up to the middle of `k - 1` and `k`, and in the
middle if `k` is odd. -/
theorem nearestEven_lt_iff {num den k : Nat} (hden : 0 < den) :
    nearestEven num den < k
      ↔ 2 * num + den < 2 * (k * den) ∨ 2 * num + den = 2 * (k * den) ∧ k % 2 = 1 := by
  have hdiv := Nat.div_add_mod num den
  have hmod := Nat.mod_lt num hden
  have hwhole : den * (num / den) = num / den * den := Nat.mul_comm ..
  have hcases := nearestEven_cases num den
  rcases Nat.lt_trichotomy (num / den + 1) k with hlt | rfl | hgt
  · have hbelow : (num / den + 2) * den ≤ k * den := Nat.mul_le_mul_right den hlt
    rw [Nat.add_mul] at hbelow
    omega
  · rw [Nat.add_mul, Nat.one_mul]
    omega
  · have habove : k * den ≤ num / den * den := Nat.mul_le_mul_right den (Nat.le_of_lt_succ hgt)
    omega

namespace Magnitude

/-! ## The grid -/

theorem lastPlace_eq (w : Nat) : lastPlace w = 2 ^ (w.log2 - 52) := Nat.one_shiftLeft _

theorem lastPlace_pos (w : Nat) : 0 < lastPlace w := by
  rw [lastPlace_eq]
  exact Nat.two_pow_pos _

theorem log2_mono {v w : Nat} (h : v ≤ w) : v.log2 ≤ w.log2 := by
  by_cases hv : v = 0
  · rw [hv, Nat.log2_zero]
    exact Nat.zero_le _
  · have hw : w ≠ 0 := fun hzero => hv (Nat.le_zero.mp (hzero ▸ h))
    exact (Nat.le_log2 hw).mpr (Nat.le_trans (Nat.log2_self_le hv) h)

/-- A step further up is a number of steps further down. -/
theorem lastPlace_dvd {v w : Nat} (h : v ≤ w) : lastPlace v ∣ lastPlace w := by
  rw [lastPlace_eq, lastPlace_eq]
  exact Nat.pow_dvd_pow 2 (Nat.sub_le_sub_right (log2_mono h) 52)

/-- There are 53 digits at most above the last place. -/
theorem lt_lastPlace (w : Nat) : w < 2 ^ 53 * lastPlace w := by
  have hlt : w < 2 ^ (w.log2 + 1) := Nat.lt_log2_self
  rw [lastPlace_eq, ← Nat.pow_add]
  exact Nat.lt_of_lt_of_le hlt (Nat.pow_le_pow_right (by decide) (by omega))

/-- And there are as many if the number is so long. -/
theorem lastPlace_le_self {w : Nat} (h : 2 ^ 52 ≤ w) : 2 ^ 52 * lastPlace w ≤ w := by
  have hw : w ≠ 0 := by omega
  have hlog : 52 ≤ w.log2 := (Nat.le_log2 hw).mpr h
  rw [lastPlace_eq, ← Nat.pow_add, Nat.add_sub_cancel' hlog]
  exact Nat.log2_self_le hw

theorem lastPlace_of_lt {w k : Nat} (h : w < 2 ^ (53 + k)) : lastPlace w ∣ 2 ^ k := by
  rw [lastPlace_eq]
  refine Nat.pow_dvd_pow 2 ?_
  by_cases hw : w = 0
  · rw [hw, Nat.log2_zero]
    exact Nat.zero_le _
  · have hlog : w.log2 < 53 + k := (Nat.log2_lt hw).mpr h
    omega

/-- The last place of a number is where the first digit says it is. -/
theorem lastPlace_of_bounds {w k : Nat} (hle : 2 ^ (52 + k) ≤ w) (hlt : w < 2 ^ (53 + k)) :
    lastPlace w = 2 ^ k := by
  have hw : w ≠ 0 := fun hzero => by
    rw [hzero] at hle
    exact Nat.not_lt.mpr hle (Nat.two_pow_pos _)
  have hlow : 52 + k ≤ w.log2 := (Nat.le_log2 hw).mpr hle
  have hhigh : w.log2 < 53 + k := (Nat.log2_lt hw).mpr hlt
  rw [lastPlace_eq]
  congr 1
  omega

/-- Beyond 53 digits the last place is even. -/
theorem exists_lastPlace {w : Nat} (h : 2 ^ 53 ≤ w) : ∃ k, lastPlace w = 2 ^ (k + 1) := by
  have hlog : 53 ≤ w.log2 := (Nat.le_log2 (by omega)).mpr h
  refine ⟨w.log2 - 53, ?_⟩
  rw [lastPlace_eq]
  congr 1
  omega

/-- The magnitude is a binary64 number. -/
def OnGrid (v : Nat) : Prop := lastPlace v ∣ v

/-- Anything of 53 digits and zeros is on the grid. -/
theorem onGrid_mul {m k : Nat} (h : m ≤ 2 ^ 53) : OnGrid (m * 2 ^ k) := by
  by_cases hm : m = 2 ^ 53
  · have hlt : m * 2 ^ k < 2 ^ (53 + (k + 1)) := by
      rw [hm, ← Nat.pow_add]
      exact Nat.pow_lt_pow_right (by decide) (by omega)
    have hstep : 2 ^ (k + 1) ∣ m * 2 ^ k := by
      rw [hm, ← Nat.pow_add]
      exact Nat.pow_dvd_pow 2 (by omega)
    exact Nat.dvd_trans (lastPlace_of_lt hlt) hstep
  · have hlt : m * 2 ^ k < 2 ^ (53 + k) := by
      rw [Nat.pow_add]
      exact Nat.mul_lt_mul_of_pos_right (by omega) (Nat.two_pow_pos k)
    exact Nat.dvd_trans (lastPlace_of_lt hlt) (Nat.dvd_mul_left ..)

theorem onGrid_of_le {v : Nat} (h : v ≤ 2 ^ 53) : OnGrid v := by
  have hgrid := onGrid_mul (k := 0) h
  rwa [Nat.pow_zero, Nat.mul_one] at hgrid

/-- A magnitude of 53 digits or more above a place is a multiple of the
place. -/
theorem OnGrid.dvd {v k : Nat} (hv : OnGrid v) (h : 2 ^ 52 * 2 ^ k ≤ v) : 2 ^ k ∣ v := by
  have hplace : lastPlace (2 ^ (52 + k)) = 2 ^ k :=
    lastPlace_of_bounds (Nat.le_refl _) (Nat.pow_lt_pow_right (by decide) (by omega))
  rw [← Nat.pow_add] at h
  exact Nat.dvd_trans (hplace ▸ lastPlace_dvd h) hv

/-! ## To the grid -/

section Nearest

variable {num den v : Nat}

theorem nearest_eq (num den : Nat) : nearest num den
    = nearestEven num (den * lastPlace (num / den)) * lastPlace (num / den) := rfl

theorem onGrid_nearest (num : Nat) (hden : 0 < den) : OnGrid (nearest num den) := by
  have hlt : num / den < 2 ^ 53 * lastPlace (num / den) := lt_lastPlace _
  have hnum : num ≤ 2 ^ 53 * (den * lastPlace (num / den)) := by
    have hlt := Nat.le_of_lt ((Nat.div_lt_iff_lt_mul hden).mp hlt)
    have hassoc : 2 ^ 53 * lastPlace (num / den) * den
        = 2 ^ 53 * (den * lastPlace (num / den)) := by ring
    exact hassoc ▸ hlt
  have hle := nearestEven_le (Nat.mul_pos hden (lastPlace_pos (num / den))) hnum
  rw [nearest_eq]
  generalize nearestEven num (den * lastPlace (num / den)) = m at hle
  rw [lastPlace_eq]
  exact onGrid_mul hle

/-- What the quotient does not exceed, its rounding does not. -/
theorem nearest_le (hden : 0 < den) (hv : OnGrid v) (h : num ≤ v * den) : nearest num den ≤ v := by
  have hle : num / den ≤ v := Nat.div_le_of_le_mul (Nat.mul_comm v den ▸ h)
  obtain ⟨m, hm⟩ := Nat.dvd_trans (lastPlace_dvd hle) hv
  have hnum : num ≤ m * (den * lastPlace (num / den)) := by
    have hassoc : v * den = m * (den * lastPlace (num / den)) := by
      rw [hm]
      ring
    exact hassoc ▸ h
  have hnearest := nearestEven_le (Nat.mul_pos hden (lastPlace_pos (num / den))) hnum
  calc nearest num den ≤ m * lastPlace (num / den) := Nat.mul_le_mul_right _ hnearest
    _ = v := by rw [hm, Nat.mul_comm]

/-- A number on the grid is below the rounding only if it is below the
quotient. -/
theorem lt_of_lt_nearest (hden : 0 < den) (hv : OnGrid v) (h : v < nearest num den) :
    v * den < num :=
  Nat.lt_of_not_le fun hle => Nat.not_le_of_lt h (nearest_le hden hv hle)

theorem le_nearest (hden : 0 < den) (hv : OnGrid v) (h : v * den ≤ num) : v ≤ nearest num den := by
  have hle : v ≤ num / den := (Nat.le_div_iff_mul_le hden).mpr h
  have hplace := lastPlace_pos (num / den)
  rw [nearest_eq]
  rcases Nat.eq_or_lt_of_le (Nat.sub_le_sub_right (log2_mono hle) 52) with hsame | hwider
  · obtain ⟨m, hm⟩ := hv
    have hm : v = m * lastPlace (num / den) := by
      rw [lastPlace_eq, ← hsame, ← lastPlace_eq, Nat.mul_comm]
      exact hm
    have hnum : m * (den * lastPlace (num / den)) ≤ num := by
      have hassoc : v * den = m * (den * lastPlace (num / den)) := by
        rw [hm]
        ring
      exact hassoc ▸ h
    calc v = m * lastPlace (num / den) := hm
      _ ≤ _ := Nat.mul_le_mul_right _ (le_nearestEven (Nat.mul_pos hden hplace) hnum)
  · -- the steps are wider at the quotient, but its first digit stays
    have hwide : 2 ^ 52 ≤ num / den := by
      have hne : num / den ≠ 0 := fun hzero => by
        rw [hzero, Nat.log2_zero] at hwider
        omega
      exact (Nat.le_log2 hne).mp (by omega)
    have hfirst : 2 ^ 52 * (den * lastPlace (num / den)) ≤ num := by
      calc 2 ^ 52 * (den * lastPlace (num / den))
          = den * (2 ^ 52 * lastPlace (num / den)) := by ring
        _ ≤ den * (num / den) := Nat.mul_le_mul_left den (lastPlace_le_self hwide)
        _ ≤ num := Nat.mul_div_le num den
    have hsteps : 2 * lastPlace v ≤ lastPlace (num / den) := by
      rw [lastPlace_eq, lastPlace_eq, ← Nat.pow_succ']
      exact Nat.pow_le_pow_right (by decide) hwider
    have hv := lt_lastPlace v
    calc v ≤ 2 ^ 52 * lastPlace (num / den) := by omega
      _ ≤ _ := Nat.mul_le_mul_right _ (le_nearestEven (Nat.mul_pos hden hplace) hfirst)

theorem nearest_error (num : Nat) (hden : 0 < den) :
    2 * num ≤ 2 * (den * nearest num den) + den * lastPlace (num / den)
      ∧ 2 * (den * nearest num den) ≤ 2 * num + den * lastPlace (num / den) := by
  have herror := nearestEven_error num (Nat.mul_pos hden (lastPlace_pos (num / den)))
  have hassoc : nearestEven num (den * lastPlace (num / den)) * (den * lastPlace (num / den))
      = den * nearest num den := by
    rw [nearest_eq]
    ring
  rw [hassoc] at herror
  exact herror

/-- A quotient of 53 digits loses one part in 2^53 at most. -/
theorem nearest_lower (hden : 0 < den) (h : num = 0 ∨ 2 ^ 52 * den ≤ num) :
    (2 ^ 53 - 1) * num ≤ 2 ^ 53 * (den * nearest num den) := by
  rcases h with rfl | h
  · exact Nat.zero_le _
  · have hlow := (nearest_error num hden).1
    have hwide : 2 ^ 52 ≤ num / den := (Nat.le_div_iff_mul_le hden).mpr h
    have hstep : den * (2 ^ 52 * lastPlace (num / den)) ≤ num :=
      Nat.le_trans (Nat.mul_le_mul_left den (lastPlace_le_self hwide)) (Nat.mul_div_le num den)
    have hassoc : den * (2 ^ 52 * lastPlace (num / den))
        = 2 ^ 52 * (den * lastPlace (num / den)) := by ring
    omega

/-- Less than half a step does not count. -/
theorem nearest_add {r : Nat} (hv : OnGrid v) (h : 2 * r < lastPlace v) :
    nearest (v + r) 1 = v := by
  have hplace : lastPlace (v + r) = lastPlace v := by
    refine Nat.dvd_antisymm ?_ (lastPlace_dvd (Nat.le_add_right v r))
    -- a step above `v` there is still no digit more
    have hstep : v + lastPlace v ≤ 2 ^ 53 * lastPlace v := by
      obtain ⟨m, hm⟩ := hv
      have hlt := lt_lastPlace v
      have hmlt : m < 2 ^ 53 := by
        refine Nat.lt_of_mul_lt_mul_left (a := lastPlace v) ?_
        rw [← hm, Nat.mul_comm (lastPlace v)]
        exact hlt
      calc v + lastPlace v = (m + 1) * lastPlace v := by
            rw [Nat.add_mul, Nat.one_mul, Nat.mul_comm m, ← hm]
        _ ≤ 2 ^ 53 * lastPlace v := Nat.mul_le_mul_right _ hmlt
    have hlt : v + r < 2 ^ (53 + (v.log2 - 52)) := by
      rw [Nat.pow_add, ← lastPlace_eq]
      omega
    rw [lastPlace_eq v]
    exact lastPlace_of_lt hlt
  have hle : nearest (v + r) 1 ≤ v := by
    obtain ⟨m, hm⟩ := hv
    rw [nearest_eq, Nat.div_one, Nat.one_mul, hplace]
    have hhalf : 2 * (v + r) < (2 * m + 1) * lastPlace v := by
      have hmiddle : (2 * m + 1) * lastPlace v = 2 * (lastPlace v * m) + lastPlace v := by ring
      omega
    calc _ ≤ m * lastPlace v := Nat.mul_le_mul_right _ (nearestEven_le_of_lt hhalf)
      _ = v := by rw [Nat.mul_comm, ← hm]
  have hge : v ≤ nearest (v + r) 1 := le_nearest Nat.one_pos hv (by omega)
  exact Nat.le_antisymm hle hge

theorem nearest_of_onGrid (hv : OnGrid v) : nearest v 1 = v :=
  nearest_add (r := 0) hv (lastPlace_pos v)

/-- What lies on the grid below the rounding of a number is half a step
below the number at least. -/
theorem two_mul_add_lastPlace_le {w : Nat} (hwide : 2 ^ 53 ≤ w) (hv : OnGrid v)
    (h : v < nearest w 1) : 2 * v + lastPlace w ≤ 2 * w := by
  obtain ⟨k, hk⟩ := exists_lastPlace hwide
  have hfirst := lastPlace_le_self (Nat.le_trans (by decide) hwide)
  rcases Nat.lt_or_ge v (2 ^ 52 * lastPlace w) with hfiner | hsame
  · -- below the first digit of the number the steps are half as wide
    have hhalf : lastPlace w = 2 * 2 ^ k := by rw [hk, Nat.pow_succ']
    rcases Nat.lt_or_ge v (2 ^ 52 * 2 ^ k) with hfar | hnear
    · omega
    · obtain ⟨a, rfl⟩ := hv.dvd hnear
      have ha : a < 2 ^ 53 := by
        refine Nat.lt_of_mul_lt_mul_left (a := 2 ^ k) ?_
        omega
      have hstep : 2 ^ k * (a + 1) ≤ 2 ^ k * 2 ^ 53 := Nat.mul_le_mul_left _ ha
      rw [Nat.mul_succ] at hstep
      omega
  · -- both are whole steps, so there is one between them
    obtain ⟨a, rfl⟩ := hv.dvd (hk ▸ hsame)
    have hround : nearest w 1 = 2 ^ (k + 1) * nearestEven w (lastPlace w) := by
      rw [nearest_eq, Nat.div_one, Nat.one_mul, hk, Nat.mul_comm]
    generalize nearestEven w (lastPlace w) = b at hround
    rw [hround] at h
    have hstep : 2 ^ (k + 1) * (a + 1) ≤ nearest w 1 :=
      hround ▸ Nat.mul_le_mul_left _ (Nat.lt_of_mul_lt_mul_left h)
    have herror := (nearest_error w Nat.one_pos).2
    rw [Nat.div_one, Nat.one_mul, Nat.one_mul, hk] at herror
    rw [Nat.mul_succ] at hstep
    omega

end Nearest

/-! ## Parts of a magnitude -/

theorem exists_digits {x : Nat} (hx : OnGrid x) (hwide : 2 ^ 53 ≤ x) :
    ∃ m k, x = m * 2 ^ (k + 1) ∧ 2 ^ 52 ≤ m ∧ m < 2 ^ 53 := by
  obtain ⟨k, hk⟩ := exists_lastPlace hwide
  obtain ⟨m, hm⟩ := hx
  have hlow := lastPlace_le_self (Nat.le_trans (by decide) hwide)
  have hhigh := lt_lastPlace x
  rw [hk, Nat.mul_comm] at hm
  rw [hk, hm] at hlow hhigh
  have hpos : 0 < 2 ^ (k + 1) := Nat.two_pow_pos _
  exact ⟨m, k, hm, Nat.le_of_mul_le_mul_right hlow hpos, Nat.lt_of_mul_lt_mul_right hhigh⟩

/-- Below a power of two the steps are half as wide, and a part goes one
of these down at least. -/
theorem nearest_part_lt_of_first {k d : Nat} (hd : d < 2 ^ 53) :
    nearest (2 ^ 52 * 2 ^ (k + 1) * d) (2 ^ 53) < 2 ^ 52 * 2 ^ (k + 1) := by
  have hpart : 2 ^ 52 * 2 ^ (k + 1) * d ≤ (2 ^ 53 - 1) * 2 ^ k * 2 ^ 53 := by
    calc 2 ^ 52 * 2 ^ (k + 1) * d ≤ 2 ^ 52 * 2 ^ (k + 1) * (2 ^ 53 - 1) :=
          Nat.mul_le_mul_left _ (by omega)
      _ = (2 ^ 53 - 1) * 2 ^ k * 2 ^ 53 := by ring
  have hle := nearest_le (Nat.two_pow_pos 53) (onGrid_mul (by decide)) hpart
  have hpow : 2 ^ 52 * 2 ^ (k + 1) = 2 ^ 53 * 2 ^ k := by ring
  have hk := Nat.two_pow_pos k
  omega

/-- Elsewhere a part is more than half a step down, and so is what it
rounds to. -/
theorem nearest_part_lt_of_lt {m k d : Nat} (hlow : 2 ^ 52 < m) (hhigh : m < 2 ^ 53)
    (hd : d < 2 ^ 53) : nearest (m * 2 ^ (k + 1) * d) (2 ^ 53) < m * 2 ^ (k + 1) := by
  have hpos : 0 < 2 ^ (k + 1) := Nat.two_pow_pos _
  have hbelow : (m - 1) * 2 ^ (k + 1) < m * 2 ^ (k + 1) :=
    Nat.mul_lt_mul_of_pos_right (by omega) hpos
  refine Nat.lt_of_le_of_lt ?_ hbelow
  by_cases hpart : m * 2 ^ (k + 1) * d ≤ (m - 1) * 2 ^ (k + 1) * 2 ^ 53
  · exact nearest_le (Nat.two_pow_pos 53) (onGrid_mul (by omega)) hpart
  · -- the part lies between the number below and the middle
    have hplace : lastPlace (m * 2 ^ (k + 1) * d / 2 ^ 53) = 2 ^ (k + 1) := by
      refine lastPlace_of_bounds ?_ ?_
      · refine (Nat.le_div_iff_mul_le (Nat.two_pow_pos 53)).mpr ?_
        refine Nat.le_trans (Nat.mul_le_mul_right _ ?_) (Nat.le_of_not_le hpart)
        rw [Nat.pow_add]
        exact Nat.mul_le_mul_right _ (by omega)
      · have hmk : m * 2 ^ (k + 1) < 2 ^ (53 + (k + 1)) := by
          rw [Nat.pow_add 2 53]
          exact Nat.mul_lt_mul_of_pos_right hhigh hpos
        refine Nat.lt_of_le_of_lt (Nat.div_le_of_le_mul ?_) hmk
        rw [Nat.mul_comm]
        exact Nat.mul_le_mul_right _ (Nat.le_of_lt hd)
    rw [nearest_eq, hplace]
    refine Nat.mul_le_mul_right _ (nearestEven_le_of_lt ?_)
    have hdigits : 2 * (m * d) < (2 * (m - 1) + 1) * 2 ^ 53 := by
      have hmd : m * d ≤ m * (2 ^ 53 - 1) := Nat.mul_le_mul_left m (by omega)
      omega
    calc 2 * (m * 2 ^ (k + 1) * d) = 2 * (m * d) * 2 ^ (k + 1) := by ring
      _ < (2 * (m - 1) + 1) * 2 ^ 53 * 2 ^ (k + 1) := Nat.mul_lt_mul_of_pos_right hdigits hpos
      _ = (2 * (m - 1) + 1) * (2 ^ 53 * 2 ^ (k + 1)) := Nat.mul_assoc ..

/-- A part of a magnitude never rounds to the whole of it. -/
theorem nearest_part_lt {x d : Nat} (hx : OnGrid x) (hwide : 2 ^ 53 ≤ x) (hd : d < 2 ^ 53) :
    nearest (x * d) (2 ^ 53) < x := by
  obtain ⟨m, k, rfl, hlow, hhigh⟩ := exists_digits hx hwide
  rcases Nat.eq_or_lt_of_le hlow with rfl | hlow
  · exact nearest_part_lt_of_first hd
  · exact nearest_part_lt_of_lt hlow hhigh hd

end Magnitude

end FormLease
