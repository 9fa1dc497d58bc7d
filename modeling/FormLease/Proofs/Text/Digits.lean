import FormLease.Text.Digits
import Mathlib.Algebra.Ring.Int.Defs

/-!
# Numbers in decimal digits

A number is read from a text by taking its sign off, reading the digits and
asking whether the number fits a word. What comes of it can be said from the
other side: which texts spell a number (`Spells`). A sign is not a digit, so
no text spells two numbers, and the reader finds the one that there is.
-/

namespace FormLease.Text

/-! ## Digits -/

/-- These are decimal digits, at least one, and they come to this number. -/
structure Digits (s : List Char) (n : Nat) : Prop where
  nonempty : s ≠ []
  digits : ∀ c ∈ s, c.isDigit = true
  value : Nat.ofDigitChars 10 s 0 = n

theorem digits?_eq_some_iff {s : List Char} {n : Nat} : digits? s = some n ↔ Digits s n := by
  have hvalue : s.foldl (fun n c => 10 * n + (c.toNat - 0x30)) 0 = Nat.ofDigitChars 10 s 0 := rfl
  have hdigits : (decide (s ≠ []) && s.all Char.isDigit) = true
      ↔ s ≠ [] ∧ ∀ c ∈ s, c.isDigit = true := by
    simp only [Bool.and_eq_true, decide_eq_true_eq, List.all_eq_true]
  rw [digits?, hvalue, Option.ite_none_right_eq_some, hdigits, Option.some.injEq]
  exact ⟨fun h => ⟨h.1.1, h.1.2, h.2⟩, fun h => ⟨⟨h.nonempty, h.digits⟩, h.value⟩⟩

theorem Digits.head_isDigit {c : Char} {s : List Char} {n : Nat} (h : Digits (c :: s) n) :
    c.isDigit = true :=
  h.digits c List.mem_cons_self

/-! ## Signs -/

/-- The text is the number in decimal digits, with a sign or none. -/
inductive Spells : List Char → Int → Prop where
  | bare {s : List Char} {n : Nat} (digits : Digits s n) : Spells s n
  | plus {s : List Char} {n : Nat} (digits : Digits s n) : Spells ('+' :: s) n
  | minus {s : List Char} {n : Nat} (digits : Digits s n) : Spells ('-' :: s) (-n)

theorem splitSign_of_isDigit {s : List Char} {n : Nat} (h : Digits s n) :
    splitSign s = (false, s) := by
  unfold splitSign
  split
  · cases h.head_isDigit
  · cases h.head_isDigit
  · rfl

/-- What is read after a sign, with the sign. -/
theorem spells_iff {s : List Char} {n : Int} : Spells s n ↔
    ∃ m, digits? (splitSign s).2 = some m ∧ (if (splitSign s).1 then -(m : Int) else m) = n := by
  constructor
  · intro h
    cases h with
    | bare digits =>
        rw [splitSign_of_isDigit digits]
        exact ⟨_, digits?_eq_some_iff.mpr digits, rfl⟩
    | plus digits => exact ⟨_, digits?_eq_some_iff.mpr digits, rfl⟩
    | minus digits => exact ⟨_, digits?_eq_some_iff.mpr digits, rfl⟩
  · rintro ⟨m, hm, rfl⟩
    unfold splitSign at hm ⊢
    split at hm
    · exact .minus (digits?_eq_some_iff.mp hm)
    · exact .plus (digits?_eq_some_iff.mp hm)
    · exact .bare (digits?_eq_some_iff.mp hm)

/-! ## Words -/

theorem fitsSigned_iff {bits : Nat} {n : Int} :
    fitsSigned bits n = true ↔ -2 ^ (bits - 1) ≤ n ∧ n < 2 ^ (bits - 1) := by
  have hpow : ((2 ^ (bits - 1) : Nat) : Int) = 2 ^ (bits - 1) := by push_cast; rfl
  cases n with
  | ofNat n =>
      rw [fitsSigned, decide_eq_true_eq, Nat.one_shiftLeft, Int.ofNat_eq_natCast]
      omega
  | negSucc n =>
      rw [fitsSigned, decide_eq_true_eq, Nat.one_shiftLeft, Int.negSucc_eq]
      omega

theorem integer?_eq_some_iff {bits : Nat} {s : String} {n : Int} : integer? bits s = some n
    ↔ Spells s.toList n ∧ -2 ^ (bits - 1) ≤ n ∧ n < 2 ^ (bits - 1) := by
  rw [integer?, Option.filter_eq_some_iff, fitsSigned_iff, spells_iff]
  simp [Option.bind_eq_some_iff]

end FormLease.Text
