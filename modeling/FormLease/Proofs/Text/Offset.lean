import FormLease.Text.Offset
import FormLease.Proofs.Text.Cut

/-!
# Slices of texts that are put together

A place that comes from a search is the size of the text in front of what
was found. So a text is always sliced where it was put together, and there
its pieces come back: every slice between two searched places exists.
-/

namespace FormLease.Text

/-! ## Searched places -/

/-- A search for a text either finds nothing or cuts a text where what it
is put together from meets. -/
theorem placeOf?_cases {mark : String} (hmark : mark.toList ≠ []) (s : String) :
    (placeOf? mark s = none ∧ cut? mark.toList s.toList = none)
    ∨ ∃ a b : String, s = a ++ mark ++ b ∧ placeOf? mark s = some a.utf8ByteSize
      ∧ cut? mark.toList s.toList = some (a.toList, b.toList) := by
  cases hcut : cut? mark.toList s.toList with
  | none => exact .inl ⟨by rw [placeOf?, hcut, Option.map_none], rfl⟩
  | some pieces =>
      obtain ⟨a, b⟩ := pieces
      refine .inr ⟨String.ofList a, String.ofList b, ?_, ?_, ?_⟩
      · rw [← String.toList_inj, ((cut?_eq_some_iff hmark).mp hcut).1]
        simp
      · rw [placeOf?, hcut, Option.map_some]
      · rw [String.toList_ofList, String.toList_ofList]

theorem lastPlaceOf?_cases (mark : Char) (s : String) :
    (lastPlaceOf? mark s = none ∧ cutLast? mark s.toList = none)
    ∨ ∃ a b : String, s = a ++ (String.singleton mark ++ b)
      ∧ lastPlaceOf? mark s = some a.utf8ByteSize
      ∧ cutLast? mark s.toList = some (a.toList, b.toList) := by
  cases hcut : cutLast? mark s.toList with
  | none => exact .inl ⟨by rw [lastPlaceOf?, hcut, Option.map_none], rfl⟩
  | some pieces =>
      obtain ⟨a, b⟩ := pieces
      refine .inr ⟨String.ofList a, String.ofList b, ?_, ?_, ?_⟩
      · rw [← String.toList_inj, (cutLast?_eq_some_iff.mp hcut).1]
        simp
      · rw [lastPlaceOf?, hcut, Option.map_some]
      · rw [String.toList_ofList, String.toList_ofList]

/-! ## Slices -/

theorem pos?_eq {s a b : String} (h : s = a ++ b) :
    ∃ p : s.Pos, s.pos? ⟨a.utf8ByteSize⟩ = some p ∧ p.offset = ⟨a.utf8ByteSize⟩ := by
  have hvalid : (⟨a.utf8ByteSize⟩ : String.Pos.Raw).IsValid s :=
    String.Pos.Raw.isValid_iff_exists_append.mpr ⟨a, b, h, rfl⟩
  refine ⟨s.pos ⟨a.utf8ByteSize⟩ hvalid, ?_, rfl⟩
  rw [String.pos?, String.Slice.pos?,
    dif_pos (String.Pos.Raw.isValidForSlice_eq_true_iff.mpr hvalid.toSlice), Option.map_some]
  rfl

/-- Each of three texts that were put together is the slice between the
sizes of what is in front of it. -/
theorem slice?_append (a b c : String) :
    slice? (a ++ b ++ c) a.utf8ByteSize (a ++ b).utf8ByteSize = some b := by
  obtain ⟨p, hp, hstart⟩ := pos?_eq (String.append_assoc : a ++ b ++ c = a ++ (b ++ c))
  obtain ⟨q, hq, hend⟩ := pos?_eq (rfl : a ++ b ++ c = a ++ b ++ c)
  have hle : p ≤ q := by
    rw [String.Pos.le_iff, hstart, hend, String.Pos.Raw.le_iff]
    simp
  have hbytes : (a ++ b ++ c).extract p q = b := by
    rw [← String.toByteArray_inj, String.toByteArray_extract, hstart, hend, String.append_assoc,
      String.toByteArray_append, String.toByteArray_append, String.utf8ByteSize_append]
    exact (ByteArray.extract_append_size_add' (i := 0) rfl).trans
      (ByteArray.extract_append_eq_left rfl)
  rw [slice?, hp, Option.bind_eq_bind, Option.bind_some, hq, Option.bind_some, if_pos hle,
    hbytes]

theorem slice?_take (a b : String) : slice? (a ++ b) 0 a.utf8ByteSize = some a := by
  simpa using slice?_append "" a b

theorem slice?_drop (a b : String) :
    slice? (a ++ b) a.utf8ByteSize (a ++ b).utf8ByteSize = some b := by
  simpa using slice?_append a b ""

end FormLease.Text
