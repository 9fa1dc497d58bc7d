import FormLease.Text.Cut
import Mathlib.Data.List.Infix

/-!
# Where a text is cut

Each cut is known by its pieces: put together around the mark they are the
text, and the mark does not stand anywhere it would have been found before.
For a last mark that is what follows it. For a first mark it is what stands
before it together with all of the mark but its last character, since an
occurrence that is found earlier may share characters with the one the text
is cut at.

So a text that is written as pieces that meet the condition is cut into
these pieces and no others.
-/

namespace FormLease.Text

/-! ## At a lead -/

theorem afterLead?_eq_some_iff {lead s rest : List Char} :
    afterLead? lead s = some rest ↔ s = lead ++ rest := by
  induction lead generalizing s with
  | nil => simp [afterLead?]
  | cons l lead ih =>
      cases s with
      | nil => simp [afterLead?]
      | cons c s =>
          by_cases hl : l = c
          · simp [afterLead?, hl, ih]
          · simp [afterLead?, hl, eq_comm]

theorem afterLead?_eq_none_iff {lead s : List Char} :
    afterLead? lead s = none ↔ ¬ lead <+: s := by
  rw [Option.eq_none_iff_forall_ne_some]
  constructor
  · rintro h ⟨rest, hrest⟩
    exact h rest (afterLead?_eq_some_iff.mpr hrest.symm)
  · intro h rest hrest
    exact h ⟨rest, (afterLead?_eq_some_iff.mp hrest).symm⟩

/-! ## At the first mark -/

theorem dropLast_prefix_append (a mark b : List Char) :
    a ++ mark.dropLast <+: a ++ mark ++ b :=
  (List.prefix_append_right_inj a |>.mpr mark.dropLast_prefix).trans (List.prefix_append _ _)

/-- An occurrence that begins before the one a text is written with ends
before its last character. -/
theorem prefix_dropLast {mark a b : List Char} {x : Char}
    (h : mark <+: x :: a ++ mark ++ b) : mark <+: x :: a ++ mark.dropLast := by
  refine List.prefix_of_prefix_length_le h (dropLast_prefix_append (x :: a) mark b) ?_
  simp only [List.length_append, List.length_cons, List.length_dropLast]
  omega

theorem cut?_eq_some_iff {mark : List Char} (hmark : mark ≠ []) {s a b : List Char} :
    cut? mark s = some (a, b) ↔ s = a ++ mark ++ b ∧ ¬ mark <:+: a ++ mark.dropLast := by
  induction s generalizing a with
  | nil => simp [cut?, hmark]
  | cons c s ih =>
      cases hafter : afterLead? mark (c :: s) with
      | some after =>
          have hs : c :: s = mark ++ after := afterLead?_eq_some_iff.mp hafter
          simp only [cut?, hafter, Option.some.injEq, Prod.mk.injEq]
          constructor
          · rintro ⟨rfl, rfl⟩
            refine ⟨hs, fun hin => ?_⟩
            have hlength := hin.length_le
            have hpos := List.length_pos_iff.mpr hmark
            simp only [List.nil_append, List.length_dropLast] at hlength
            omega
          · rintro ⟨hsplit, hin⟩
            cases a with
            | nil => exact ⟨rfl, List.append_cancel_left (hs.symm.trans hsplit)⟩
            | cons x a =>
                have hfront : mark <+: x :: a ++ mark ++ b := hsplit ▸ ⟨after, hs.symm⟩
                exact absurd (prefix_dropLast hfront).isInfix hin
      | none =>
          have hs : ¬ mark <+: c :: s := afterLead?_eq_none_iff.mp hafter
          simp only [cut?, hafter, Option.map_eq_some_iff, Prod.exists, Prod.mk.injEq]
          constructor
          · rintro ⟨before, after, hcut, rfl, rfl⟩
            obtain ⟨hsplit, hin⟩ := ih.mp hcut
            refine ⟨by rw [hsplit]; rfl, fun hin' => ?_⟩
            rcases List.infix_cons_iff.mp hin' with hfront | hlater
            · rw [hsplit] at hs
              exact hs (hfront.trans (dropLast_prefix_append (c :: before) mark after))
            · exact hin hlater
          · rintro ⟨hsplit, hin⟩
            cases a with
            | nil => exact absurd ⟨b, hsplit.symm⟩ hs
            | cons x a =>
                obtain ⟨rfl, hrest⟩ := List.cons.inj hsplit
                exact ⟨a, b, ih.mpr ⟨hrest, fun h => hin (List.infix_cons h)⟩, rfl, rfl⟩

theorem cut?_singleton_eq_some_iff {mark : Char} {s a b : List Char} :
    cut? [mark] s = some (a, b) ↔ s = a ++ mark :: b ∧ mark ∉ a := by
  rw [cut?_eq_some_iff (List.cons_ne_nil _ _)]
  simp [List.singleton_infix_iff]

/-! ## At the last mark -/

theorem cutLast?_eq_none_iff {mark : Char} {s : List Char} :
    cutLast? mark s = none ↔ mark ∉ s := by
  induction s with
  | nil => simp [cutLast?]
  | cons c s ih =>
      cases hcut : cutLast? mark s with
      | some pieces =>
          have hlater : mark ∈ s := by
            rw [← Decidable.not_not (p := mark ∈ s), ← ih, hcut]
            simp
          simp [cutLast?, hcut, hlater]
      | none =>
          have hlater : mark ∉ s := ih.mp hcut
          by_cases hc : c = mark
          · simp [cutLast?, hcut, hc]
          · simp [cutLast?, hcut, hc, hlater, Ne.symm hc]

theorem cutLast?_append {mark : Char} {b : List Char} (h : mark ∉ b) (a : List Char) :
    cutLast? mark (a ++ mark :: b) = some (a, b) := by
  induction a with
  | nil => simp [cutLast?, cutLast?_eq_none_iff.mpr h]
  | cons x a ih => simp [cutLast?, ih]

theorem cutLast?_eq_some_iff {mark : Char} {s a b : List Char} :
    cutLast? mark s = some (a, b) ↔ s = a ++ mark :: b ∧ mark ∉ b := by
  constructor
  · intro hcut
    induction s generalizing a with
    | nil => cases hcut
    | cons c s ih =>
        cases hlater : cutLast? mark s with
        | some pieces =>
            simp only [cutLast?, hlater, Option.some.injEq, Prod.mk.injEq] at hcut
            obtain ⟨rfl, rfl⟩ := hcut
            obtain ⟨hs, hmark⟩ := ih hlater
            exact ⟨congrArg (c :: ·) hs, hmark⟩
        | none =>
            simp only [cutLast?, hlater] at hcut
            split at hcut
            · next hc =>
                obtain ⟨rfl, rfl⟩ := Prod.mk.inj (Option.some.inj hcut)
                exact ⟨by rw [hc]; rfl, cutLast?_eq_none_iff.mp hlater⟩
            · cases hcut
  · rintro ⟨rfl, h⟩
    exact cutLast?_append h a

/-- Where a text is cut at its last mark is decided by the text. -/
theorem eq_of_last_mark {mark : Char} {a b c d : List Char} (h : a ++ mark :: b = c ++ mark :: d)
    (hb : mark ∉ b) (hd : mark ∉ d) : a = c ∧ b = d := by
  have hcut := cutLast?_append hb a
  rw [h, cutLast?_append hd c] at hcut
  obtain ⟨rfl, rfl⟩ := Prod.mk.inj (Option.some.inj hcut)
  exact ⟨rfl, rfl⟩

end FormLease.Text
