import FormLease.Proofs.Call.Waits
import FormLease.Proofs.Table.Desk
import FormLease.Proofs.Text.Cut

/-!
# Keys read back

Nothing is escaped in the text of a resource key. A form may contain the
separator or look like a key itself, and then the text cut at its
separators from the left is not the key any more. It is readable from the
right: the bucket is two digits wide and no digit is a separator, so the
last separator of the text is the one before the bucket
(`eq_of_last_mark`), and in front of the form is the lead, which is always
the same.

`read?` reads exactly the texts of keys (`read?_eq_some_iff`), so two keys
with one text are one key. That is all that a lease table sees of a key.
-/

namespace FormLease

namespace Text

/-! ## Two digits for a byte -/

theorem hexValue?_hexDigit : ∀ n, n < 16 → hexValue? (hexDigit n) = some n := by decide

theorem hexDigit_ne_bar : ∀ n, n < 16 → hexDigit n ≠ '|' := by decide

/-- The digits in the order of their values. -/
def lowerHex : List Char := "0123456789abcdef".toList

theorem lowerHex_getElem? : ∀ n, n < 16 → lowerHex[n]? = some (hexDigit n) := by decide

/-- A digit that can be read is the one that is written. -/
theorem hexDigit_of_hexValue? {c : Char} {n : Nat} (h : hexValue? c = some n) :
    n < 16 ∧ hexDigit n = c := by
  unfold hexValue? at h
  split at h
  · next hc =>
      obtain rfl := Option.some.inj h
      have hlow : 0x30 ≤ c.toNat := hc.1
      have hhigh : c.toNat ≤ 0x39 := hc.2
      refine ⟨by omega, ?_⟩
      rw [hexDigit, if_pos (by omega), show 0x30 + (c.toNat - 0x30) = c.toNat by omega,
        Char.ofNat_toNat]
  · split at h
    · next hc =>
        obtain rfl := Option.some.inj h
        have hlow : 0x61 ≤ c.toNat := hc.1
        have hhigh : c.toNat ≤ 0x66 := hc.2
        refine ⟨by omega, ?_⟩
        rw [hexDigit, if_neg (by omega),
          show 0x61 + (c.toNat - 0x61 + 10 - 10) = c.toNat by omega, Char.ofNat_toNat]
    · cases h

theorem byte_lt (b : UInt8) : b.toNat / 16 < 16 := by
  have := b.toNat_lt
  omega

theorem readHexByte?_hexByte (b : UInt8) : readHexByte? (hexByte b) = some b := by
  have hlow : b.toNat % 16 < 16 := Nat.mod_lt _ (by decide)
  simp only [readHexByte?, hexByte, hexValue?_hexDigit _ (byte_lt b), hexValue?_hexDigit _ hlow,
    Option.bind_eq_bind, Option.bind_some, Nat.div_add_mod, UInt8.ofNat_toNat]

theorem hexByte_of_readHexByte? {digits : List Char} {b : UInt8}
    (h : readHexByte? digits = some b) : digits = hexByte b := by
  unfold readHexByte? at h
  split at h
  · next high low =>
      obtain ⟨m, hm, h⟩ := Option.bind_eq_some_iff.mp h
      obtain ⟨n, hn, h⟩ := Option.bind_eq_some_iff.mp h
      obtain rfl := Option.some.inj h
      obtain ⟨hm16, rfl⟩ := hexDigit_of_hexValue? hm
      obtain ⟨hn16, rfl⟩ := hexDigit_of_hexValue? hn
      have hbyte : (UInt8.ofNat (16 * m + n)).toNat = 16 * m + n := by
        rw [UInt8.toNat_ofNat', Nat.mod_eq_of_lt (by omega)]
      rw [hexByte, hbyte, show (16 * m + n) / 16 = m by omega,
        show (16 * m + n) % 16 = n by omega]
  · cases h

theorem bar_not_mem_hexByte (b : UInt8) : '|' ∉ hexByte b := by
  intro hbar
  rcases List.mem_cons.mp hbar with hhigh | hlow
  · exact hexDigit_ne_bar _ (byte_lt b) hhigh.symm
  · exact hexDigit_ne_bar _ (Nat.mod_lt _ (by decide)) (List.mem_singleton.mp hlow).symm

end Text

namespace ResourceKey

/-! ## The text of a key -/

theorem toList_text (k : ResourceKey) :
    k.text.toList = lead.toList ++ (k.form.toList ++ '|' :: k.bucketText) := by
  rw [text, String.toList_ofList, List.append_assoc]

theorem text_eq (k : ResourceKey) :
    k.text = "submission|" ++ k.form ++ "|" ++ String.ofList k.bucketText := by
  rw [← String.toList_inj, toList_text]
  simp only [String.toList_append, String.toList_ofList, List.append_assoc]
  rfl

theorem read?_eq_some_iff {s : String} {k : ResourceKey} : read? s = some k ↔ s = k.text := by
  constructor
  · intro h
    obtain ⟨rest, hrest, h⟩ := Option.bind_eq_some_iff.mp h
    split at h
    · next low high form hreverse =>
        obtain ⟨bucket, hbucket, h⟩ := Option.bind_eq_some_iff.mp h
        obtain rfl := Option.some.inj h
        have hdigits := Text.hexByte_of_readHexByte? hbucket
        have hsplit : rest = form.reverse ++ '|' :: [high, low] := by
          rw [List.reverse_eq_iff.mp hreverse]
          simp
        rw [← String.toList_inj, toList_text, Text.afterLead?_eq_some_iff.mp hrest, hsplit,
          String.toList_ofList, bucketText, hdigits]
    · cases h
  · rintro rfl
    have hrest : Text.afterLead? lead.toList k.text.toList
        = some (k.form.toList ++ '|' :: k.bucketText) :=
      Text.afterLead?_eq_some_iff.mpr k.toList_text
    have hbucket := Text.readHexByte?_hexByte k.bucket
    rw [Text.hexByte] at hbucket
    simp [read?, hrest, bucketText, Text.hexByte, hbucket]

theorem text_inj {k k' : ResourceKey} : k.text = k'.text ↔ k = k' := by
  constructor
  · intro h
    have hread := read?_eq_some_iff.mpr h
    rw [read?_eq_some_iff.mpr rfl] at hread
    exact Option.some.inj hread
  · rintro rfl
    rfl

/-- The form is what stands between the lead and the last separator, and
the bucket is what follows it. -/
theorem eq_of_text_eq {k : ResourceKey} {middle tail : String}
    (h : k.text = "submission|" ++ middle ++ "|" ++ tail) (htail : '|' ∉ tail.toList) :
    middle = k.form ∧ tail = String.ofList k.bucketText := by
  have hlists : lead.toList ++ (k.form.toList ++ '|' :: k.bucketText)
      = lead.toList ++ (middle.toList ++ '|' :: tail.toList) := by
    rw [← toList_text, h]
    simp only [String.toList_append, List.append_assoc]
    rfl
  obtain ⟨hform, hbucket⟩ := Text.eq_of_last_mark (List.append_cancel_left hlists)
    (Text.bar_not_mem_hexByte k.bucket) htail
  refine ⟨String.toList_inj.mp hform.symm, ?_⟩
  rw [← String.toList_inj, String.toList_ofList, hbucket]

theorem ofSubmission_eq_ok {form instanceId : String} (h : instanceId ≠ "") :
    ofSubmission form instanceId = .ok ⟨form, bucketOf instanceId⟩ := by
  rw [ofSubmission, if_neg h]

end ResourceKey

/-! ## Who competes with whom -/

/-- Of two claimants that find their keys free, the second is turned down
exactly if it has the key of the first. -/
theorem Claimant.second_claim {a b : Claimant} (ha : a.Formed) (hb : b.Formed) {d : Desk}
    (hfree : d.table.Free d.now a.key.text) (hfree' : d.table.Free d.now b.key.text)
    (hroom : d.now + LeaseKind.modification.term.nanos < Moment.horizon) :
    ((d.serve (.claim a.id a.key.text a.kind)).1.serve (.claim b.id b.key.text b.kind)).2
      = .claimed !decide (a.key = b.key) := by
  let later : Desk := ⟨d.now, d.table.granting d.now a.id a.key.text .modification⟩
  have hlater : d.serve (.claim a.id a.key.text .modification) = (later, .claimed true) :=
    Desk.serve_claim_of_free hfree a.id hroom
  have hslot : later.table.slots.find? b.key.text = if b.key.text = a.key.text
      then some ⟨a.id, d.now + LeaseKind.modification.term.nanos⟩
      else d.table.slots.find? b.key.text := LeaseTable.find?_granting ..
  rw [ha.kind, hb.kind, hlater]
  by_cases hkey : a.key = b.key
  · rw [if_pos (by rw [hkey])] at hslot
    have hrunning : later.now < later.now + LeaseKind.modification.term.nanos :=
      Nat.lt_add_of_pos_right (by decide)
    have hbusy : ¬ later.table.Free later.now b.key.text :=
      LeaseTable.not_free_of_running hslot hrunning
    rw [Desk.serve_claim_of_not_free hbusy]
    simp [hkey]
  · rw [if_neg fun htext => hkey (ResourceKey.text_inj.mp htext).symm] at hslot
    have hstill : later.table.Free later.now b.key.text := by
      intro lease hlease
      exact hfree' lease (hslot.symm.trans hlease)
    rw [Desk.serve_claim_of_free hstill b.id hroom]
    simp [hkey]

namespace ResourceKey

/-- **A key's text says its form and its bucket.** Two submissions get keys
with the same text if and only if their forms are the same and their
instances fall into the same bucket, whatever characters the forms consist
of.

The text ends in the bucket as two lower-case hexadecimal digits. Wherever
it is written as the lead, something, a separator, and an end without a
separator in it, that something is the form and that end is the two digits.

Two claimants that find their keys free compete, so that the second is
turned down, exactly if form and bucket are the same. -/
theorem text_identifies (form form' inst inst' : String) (h : inst ≠ "") (h' : inst' ≠ "") :
    ∃ k k', ofSubmission form inst = .ok k ∧ ofSubmission form' inst' = .ok k'
      ∧ (k.text = k'.text ↔ form = form' ∧ bucketOf inst = bucketOf inst')
      ∧ (∃ high low, Text.lowerHex[(bucketOf inst).toNat / 16]? = some high
        ∧ Text.lowerHex[(bucketOf inst).toNat % 16]? = some low
        ∧ k.text = "submission|" ++ form ++ "|" ++ String.ofList [high, low]
        ∧ ∀ middle tail, k.text = "submission|" ++ middle ++ "|" ++ tail → '|' ∉ tail.toList →
          middle = form ∧ tail = String.ofList [high, low])
      ∧ read? k.text = some ⟨form, bucketOf inst⟩
      ∧ ∀ (a b : Claimant) (d : Desk), a.Formed → b.Formed → a.key = k → b.key = k' →
        d.table.Free d.now a.key.text → d.table.Free d.now b.key.text →
        d.now + LeaseKind.modification.term.nanos < Moment.horizon →
        ((d.serve (.claim a.id a.key.text a.kind)).1.serve (.claim b.id b.key.text b.kind)).2
          = .claimed !decide (form = form' ∧ bucketOf inst = bucketOf inst') := by
  have hparts : (⟨form, bucketOf inst⟩ : ResourceKey) = ⟨form', bucketOf inst'⟩
      ↔ form = form' ∧ bucketOf inst = bucketOf inst' := by
    rw [ResourceKey.mk.injEq]
  refine ⟨_, _, ofSubmission_eq_ok h, ofSubmission_eq_ok h', text_inj.trans hparts, ?_,
    read?_eq_some_iff.mpr rfl, ?_⟩
  · exact ⟨_, _, Text.lowerHex_getElem? _ (Text.byte_lt _),
      Text.lowerHex_getElem? _ (Nat.mod_lt _ (by decide)), text_eq _,
      fun middle tail => eq_of_text_eq⟩
  · intro a b d ha hb hkey hkey' hfree hfree' hroom
    rw [Claimant.second_claim ha hb hfree hfree' hroom, hkey, hkey']
    simp only [hparts]

/-- One form looks like the key of another. -/
theorem text_identifies_lookalike :
    "uuid:1234" ≠ "" ∧ bucketOf "uuid:1234" = 0x11
    ∧ ∃ k k', ofSubmission "f|11" "uuid:1234" = .ok k ∧ ofSubmission "f" "uuid:1234" = .ok k'
      ∧ k.text = "submission|f|11|11" ∧ k'.text = "submission|f|11" ∧ k.text ≠ k'.text
      ∧ read? k.text = some ⟨"f|11", 0x11⟩ := by
  have hne : "uuid:1234" ≠ "" := by decide
  have hbucket : bucketOf "uuid:1234" = 0x11 := by decide +kernel
  obtain ⟨k, k', hk, hk', hiff, -, hread, -⟩ :=
    text_identifies "f|11" "f" "uuid:1234" "uuid:1234" hne hne
  have heq : k = ⟨"f|11", 0x11⟩ := by
    rw [ofSubmission_eq_ok hne, hbucket] at hk
    exact (Except.ok.inj hk).symm
  have heq' : k' = ⟨"f", 0x11⟩ := by
    rw [ofSubmission_eq_ok hne, hbucket] at hk'
    exact (Except.ok.inj hk').symm
  refine ⟨hne, hbucket, k, k', hk, hk', ?_, ?_, ?_, hbucket ▸ hread⟩
  · rw [heq]
    decide +kernel
  · rw [heq']
    decide +kernel
  · intro htext
    exact absurd (hiff.mp htext).1 (by decide)

end ResourceKey

end FormLease
