import FormLease.Redis.Exchange
import FormLease.Proofs.Text.Digits
import Mathlib.Algebra.Ring.Nat

/-!
# What a reply counts

A Redis server says how many keys it removed with a number or with a text,
and it can say something else. For each reply there is either a count
(`Reply.Counts`) or a fault (`Reply.Uncounted`), and `Reply.number?` finds the
one that there is. So it cannot be both, and a reply counts one number only.
-/

namespace FormLease.Redis

/-- The reply is this text, in either form that texts have. -/
inductive Reply.Carries : Reply → String → Prop where
  | bulk (s : String) : Carries (.bulk s) s
  | status (s : String) : Carries (.status s) s

/-- The reply says how many, in a word of 32 bits: as a number, of which the
word keeps its last bits, or in decimal digits. -/
inductive Reply.Counts : Reply → Int → Prop where
  | int (n : Int) : Counts (.int n) (n.bmod (2 ^ 32))
  | text {r : Reply} {s : String} {n : Int} (carries : r.Carries s)
    (spells : Text.Spells s.toList n) (fits : -2 ^ 31 ≤ n ∧ n < 2 ^ 31) : Counts r n

/-- The reply does not say how many, and this is the fault that is made of
it. -/
inductive Reply.Uncounted : Reply → RedisFault → Prop where
  | error (code text : String) : Uncounted (.error code text) (.replied code text)
  | nil : Uncounted .nil (.incompatible "Response type not convertible to numeric." "nil")
  | done : Uncounted (.status "OK")
    (.incompatible "Response type not convertible to numeric." "ok")
  | text {r : Reply} {s : String} (carries : r.Carries s) (other : r ≠ .status "OK")
    (unreadable : ∀ n, ¬ r.Counts n) :
    Uncounted r (.incompatible "Could not convert from string." r.shown)

namespace Reply

variable {r : Reply} {s : String} {n : Int} {fault : RedisFault}

theorem Carries.number?_eq (carries : r.Carries s) (other : r ≠ .status "OK") : r.number?
    = (Text.integer? 32 s).elim (.error (.incompatible "Could not convert from string." r.shown))
      .ok := by
  unfold number?
  cases carries with
  | bulk =>
      dsimp only
      cases Text.integer? 32 s <;> rfl
  | status =>
      dsimp only
      split
      · next h => cases h
      · next h => cases h
      · next h => exact absurd h other
      · next h => cases h
      · next h =>
          obtain rfl := status.inj h
          cases Text.integer? 32 s <;> rfl
      · next h => cases h

theorem Counts.number?_eq (h : r.Counts n) : r.number? = .ok n := by
  cases h with
  | int n => rfl
  | @text _ s _ carries spells fits =>
      have hread : Text.integer? 32 s = some n := Text.integer?_eq_some_iff.mpr ⟨spells, fits⟩
      have hdone : Text.integer? 32 "OK" = none := by decide +kernel
      rw [carries.number?_eq ?_, hread, Option.elim_some]
      rintro rfl
      cases carries
      cases hread.symm.trans hdone

theorem Uncounted.number?_eq (h : r.Uncounted fault) : r.number? = .error fault := by
  cases h with
  | error code text => rfl
  | nil => rfl
  | done => rfl
  | @text _ s carries other unreadable =>
      have hread : Text.integer? 32 s = none := by
        refine Option.eq_none_iff_forall_ne_some.mpr fun n hn => ?_
        obtain ⟨spells, fits⟩ := Text.integer?_eq_some_iff.mp hn
        exact unreadable n (.text carries spells fits)
      rw [carries.number?_eq other, hread, Option.elim_none]

theorem Carries.counts_or_uncounted (carries : r.Carries s) (other : r ≠ .status "OK") :
    (∃ n, r.Counts n) ∨ ∃ fault, r.Uncounted fault := by
  by_cases hcounts : ∃ n, r.Counts n
  · exact .inl hcounts
  · exact .inr ⟨_, .text carries other (not_exists.mp hcounts)⟩

theorem counts_or_uncounted (r : Reply) : (∃ n, r.Counts n) ∨ ∃ fault, r.Uncounted fault := by
  by_cases hdone : r = .status "OK"
  · subst hdone
    exact .inr ⟨_, .done⟩
  cases r with
  | int n => exact .inl ⟨_, .int n⟩
  | nil => exact .inr ⟨_, .nil⟩
  | error code text => exact .inr ⟨_, .error code text⟩
  | bulk s => exact (Carries.bulk s).counts_or_uncounted hdone
  | status s => exact (Carries.status s).counts_or_uncounted hdone

theorem number?_eq_ok_iff : r.number? = .ok n ↔ r.Counts n := by
  refine ⟨fun h => ?_, Counts.number?_eq⟩
  obtain ⟨m, hm⟩ | ⟨fault, hfault⟩ := r.counts_or_uncounted
  · cases hm.number?_eq.symm.trans h
    exact hm
  · cases hfault.number?_eq.symm.trans h

theorem number?_eq_error_iff : r.number? = .error fault ↔ r.Uncounted fault := by
  refine ⟨fun h => ?_, Uncounted.number?_eq⟩
  obtain ⟨m, hm⟩ | ⟨other, hother⟩ := r.counts_or_uncounted
  · cases hm.number?_eq.symm.trans h
  · cases hother.number?_eq.symm.trans h
    exact hother

end Reply

end FormLease.Redis
