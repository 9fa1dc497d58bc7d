import FormLease.Proofs.Directory
import FormLease.Proofs.Table.Desk

/-!
# Keys do not contend

A visit reads and writes the lease of the one key that it is about. So two
desks that read the same clock and have the same lease on a key (`Agree`)
give the same reply to every visit about that key and agree on it
afterwards (`Agree.serve`), and a visit about another key is not noticed
there (`agree_serve`).

From these two facts, one for the visits that are kept and one for those
that are left out, it follows by induction on the run that the history of
a key can be read off the visits about it alone. Desks that agree on every
key (`Alike`) can differ in the order of their entries only, and no visit
tells them apart.
-/

namespace FormLease

namespace Desk

/-- The key that a request is about. -/
def Request.key? : Request → Option String
  | .claim _ key _ | .release _ key _ | .holder key => some key
  | .active | .pass _ => none

/-- Whether a request is kept when a run is cut down to the visits about
`key`. Time passes in either run. -/
def Request.about (key : String) : Request → Bool
  | .pass _ => true
  | r => r.key? == some key

theorem Request.about_of_key? {r : Request} {key : String} (h : r.key? = some key) :
    r.about key = true := by
  cases r with
  | pass time => rfl
  | active => cases h
  | _ => exact beq_iff_eq.mpr h

theorem Request.not_about {r : Request} {key k : String} (h : r.key? = some k) (hne : k ≠ key) :
    r.about key = false := by
  cases r with
  | pass time => cases h
  | active => cases h
  | _ => exact beq_eq_false_iff_ne.mpr fun heq => hne (Option.some.inj (h.symm.trans heq))

/-! ## Desks that agree on a key -/

structure Agree (key : String) (d e : Desk) : Prop where
  now : d.now = e.now
  lease : d.lease? key = e.lease? key

section Agreement

variable {d e f : Desk} {key : String}

theorem Agree.refl (key : String) (d : Desk) : Agree key d d := ⟨rfl, rfl⟩

theorem Agree.symm (h : Agree key d e) : Agree key e d := ⟨h.now.symm, h.lease.symm⟩

theorem Agree.trans (h : Agree key d e) (h' : Agree key e f) : Agree key d f :=
  ⟨h.now.trans h'.now, h.lease.trans h'.lease⟩

theorem Agree.free_iff (h : Agree key d e) :
    d.table.Free d.now key ↔ e.table.Free e.now key := by
  have hslot : d.table.slots.find? key = e.table.slots.find? key := h.lease
  rw [LeaseTable.Free, LeaseTable.Free, hslot, h.now]

theorem Agree.claim (h : Agree key d e) (id : String) (kind : LeaseKind) :
    (d.serve (.claim id key kind)).2 = (e.serve (.claim id key kind)).2
      ∧ Agree key (d.serve (.claim id key kind)).1 (e.serve (.claim id key kind)).1 := by
  rcases d.serve_claim_cases id key kind with ⟨hfree, hroom, hd⟩ | ⟨hbusy, hd⟩ | ⟨hfree, hbeyond, hd⟩
  · have he := serve_claim_of_free (h.free_iff.mp hfree) id (h.now ▸ hroom)
    rw [hd, he]
    refine ⟨rfl, h.now, ?_⟩
    rw [lease?, lease?, LeaseTable.find?_granting, LeaseTable.find?_granting, if_pos rfl, if_pos rfl,
      h.now]
  · have he := serve_claim_of_not_free (fun hfree => hbusy (h.free_iff.mpr hfree)) id kind
    rw [hd, he]
    exact ⟨rfl, h⟩
  · have he := serve_claim_of_beyond (h.free_iff.mp hfree) id (h.now ▸ hbeyond)
    rw [hd, he]
    exact ⟨rfl, h⟩

theorem Agree.release (h : Agree key d e) (id : String) (kind : LeaseKind) :
    (d.serve (.release id key kind)).2 = (e.serve (.release id key kind)).2
      ∧ Agree key (d.serve (.release id key kind)).1 (e.serve (.release id key kind)).1 := by
  rcases d.serve_release_cases id key kind with ⟨lease, hslot, hid, hd⟩ | ⟨hother, hd⟩
  · rw [hd, serve_release_of_own (h.lease ▸ hslot) hid]
    refine ⟨rfl, h.now, ?_⟩
    rw [lease?, lease?, LeaseTable.find?_without, LeaseTable.find?_without, if_pos rfl, if_pos rfl]
  · rw [hd, serve_release_of_other (h.lease ▸ hother)]
    exact ⟨rfl, h⟩

/-- Desks that agree on a key cannot be told apart by a visit about it. -/
theorem Agree.serve (h : Agree key d e) {r : Request} (hr : r.about key = true) :
    (d.serve r).2 = (e.serve r).2 ∧ Agree key (d.serve r).1 (e.serve r).1 := by
  cases r with
  | claim id k kind =>
      obtain rfl : k = key := Option.some.inj (beq_iff_eq.mp hr)
      exact h.claim id kind
  | release id k kind =>
      obtain rfl : k = key := Option.some.inj (beq_iff_eq.mp hr)
      exact h.release id kind
  | holder k =>
      obtain rfl : k = key := Option.some.inj (beq_iff_eq.mp hr)
      have hslot : d.table.slots.find? k = e.table.slots.find? k := h.lease
      refine ⟨?_, h⟩
      simp only [Desk.serve, LeaseTable.holder?, hslot, h.now]
  | active => cases hr
  | pass time => exact ⟨rfl, congrArg (· + time.nanos) h.now, h.lease⟩

/-- A visit about something else leaves a key and the clock alone. -/
theorem agree_serve (d : Desk) {r : Request} (hr : r.about key = false) :
    Agree key d (d.serve r).1 := by
  have hnow : (d.serve r).1.now = d.now := by
    cases r with
    | pass time => cases hr
    | _ => rfl
  refine ⟨hnow.symm, ?_⟩
  rcases d.serve_cases r key with ⟨id, kind, rfl, _⟩ | ⟨id, kind, lease, rfl, _⟩ | ⟨-, -, hsame⟩
  · rw [Request.about_of_key? rfl] at hr
    cases hr
  · rw [Request.about_of_key? rfl] at hr
    cases hr
  · exact hsame.symm

end Agreement

/-! ## Runs cut down to one key -/

theorem ledger_about {d e : Desk} {key : String} (h : Agree key d e) (requests : List Request) :
    d.ledger (requests.filter (·.about key))
      = (e.ledger requests).filter fun entry => entry.request.about key := by
  induction requests generalizing d e with
  | nil => rfl
  | cons r rest ih =>
      cases hr : r.about key with
      | true =>
          obtain ⟨hreply, hagree⟩ := h.serve hr
          simp only [List.filter_cons, hr, if_true, ledger, hreply, h.now, ih hagree]
      | false =>
          simp only [List.filter_cons, hr, if_false, ledger, Bool.false_eq_true]
          exact ih (h.trans (e.agree_serve hr))

theorem agree_after {d e : Desk} {key : String} (h : Agree key d e) (requests : List Request) :
    Agree key (d.after (requests.filter (·.about key))) (e.after requests) := by
  induction requests generalizing d e with
  | nil => exact h
  | cons r rest ih =>
      cases hr : r.about key with
      | true =>
          rw [List.filter_cons_of_pos hr]
          exact ih (h.serve hr).2
      | false =>
          rw [List.filter_cons_of_neg (Bool.eq_false_iff.mp hr)]
          exact ih (h.trans (e.agree_serve hr))

/-! ## Desks that agree on every key -/

/-- The same clock and the same leases. -/
structure Alike (d e : Desk) : Prop where
  now : d.now = e.now
  lease : ∀ key, d.lease? key = e.lease? key

theorem Alike.agree {d e : Desk} (h : d.Alike e) (key : String) : Agree key d e :=
  ⟨h.now, h.lease key⟩

theorem Alike.active {d e : Desk} (h : d.Alike e) :
    d.table.active d.now = e.table.active e.now := by
  rw [LeaseTable.active, LeaseTable.active, h.now]
  exact (Directory.perm_of_find?_eq h.lease).countP_eq _

theorem Alike.serve {d e : Desk} (h : d.Alike e) (r : Request) :
    (d.serve r).2 = (e.serve r).2 ∧ (d.serve r).1.Alike (e.serve r).1 := by
  have hagree : ∀ key, Agree key (d.serve r).1 (e.serve r).1 := by
    intro key
    cases hr : r.about key with
    | true => exact ((h.agree key).serve hr).2
    | false => exact (d.agree_serve hr).symm.trans ((h.agree key).trans (e.agree_serve hr))
  refine ⟨?_, (hagree "").now, fun key => (hagree key).lease⟩
  cases r with
  | active => exact congrArg Reply.active h.active
  | pass time => rfl
  | claim id key kind => exact ((h.agree key).serve (Request.about_of_key? rfl)).1
  | release id key kind => exact ((h.agree key).serve (Request.about_of_key? rfl)).1
  | holder key => exact ((h.agree key).serve (Request.about_of_key? rfl)).1

/-- Whatever is asked of them later, they say the same. -/
theorem Alike.ledger {d e : Desk} (h : d.Alike e) (requests : List Request) :
    d.ledger requests = e.ledger requests := by
  induction requests generalizing d e with
  | nil => rfl
  | cons r rest ih =>
      obtain ⟨hreply, halike⟩ := h.serve r
      simp only [Desk.ledger, hreply, h.now, ih halike]

/-! ## Visits about different keys -/

section Swap

variable {r r' : Request} {k k' : String}

/-- A visit gets the reply that it would have got before a visit about
another key. -/
theorem reply_after_other (hr : r.key? = some k) (hr' : r'.key? = some k') (hne : k ≠ k')
    (d : Desk) : ((d.serve r).1.serve r').2 = (d.serve r').2 :=
  ((d.agree_serve (Request.not_about hr hne)).serve (Request.about_of_key? hr')).1.symm

/-- On the first visit's key, the order of the two does not matter. -/
theorem agree_swap (hr : r.key? = some k) (hr' : r'.key? = some k') (hne : k ≠ k') (d : Desk) :
    Agree k ((d.serve r).1.serve r').1 ((d.serve r').1.serve r).1 := by
  have hother : r'.about k = false := Request.not_about hr' hne.symm
  have hfirst : Agree k (d.serve r).1 ((d.serve r').1.serve r).1 :=
    ((d.agree_serve hother).serve (Request.about_of_key? hr)).2
  exact ((d.serve r).1.agree_serve hother).symm.trans hfirst

theorem alike_swap (hr : r.key? = some k) (hr' : r'.key? = some k') (hne : k ≠ k') (d : Desk) :
    ((d.serve r).1.serve r').1.Alike ((d.serve r').1.serve r).1 := by
  have hagree : ∀ key, Agree key ((d.serve r).1.serve r').1 ((d.serve r').1.serve r).1 := by
    intro key
    by_cases hk : k = key
    · subst hk
      exact agree_swap hr hr' hne d
    · by_cases hk' : k' = key
      · subst hk'
        exact (agree_swap hr' hr hne.symm d).symm
      · -- neither visit is about this key
        have hno : r.about key = false := Request.not_about hr hk
        have hno' : r'.about key = false := Request.not_about hr' hk'
        have hleft := (d.agree_serve hno).trans ((d.serve r).1.agree_serve hno')
        have hright := (d.agree_serve hno').trans ((d.serve r').1.agree_serve hno)
        exact hleft.symm.trans hright
  exact ⟨(hagree k).now, fun key => (hagree key).lease⟩

end Swap

/-! ## What it is good for -/

/-- **Different keys never contend.** Take any run at any desk, and a key.

The run that is left when the visits about other keys are deleted has the
same entries: at the same moments, the same requests about the key get the
same replies. Its last desk has the same lease on the key.

Two visits about different keys can be swapped. Each gets the reply that it
got before, the clock and all leases are the same afterwards, and so is
whatever later visits are told. -/
theorem keys_apart (d : Desk) (requests : List Request) (key : String) :
    d.ledger (requests.filter (·.about key))
        = (d.ledger requests).filter (fun entry => entry.request.about key)
    ∧ (d.after (requests.filter (·.about key))).lease? key = (d.after requests).lease? key
    ∧ ∀ r r' k k', r.key? = some k → r'.key? = some k' → k ≠ k' →
      ((d.serve r).1.serve r').2 = (d.serve r').2
        ∧ ((d.serve r').1.serve r).2 = (d.serve r).2
        ∧ ((d.serve r).1.serve r').1.Alike ((d.serve r').1.serve r).1
        ∧ ∀ later, ((d.serve r).1.serve r').1.ledger later
          = ((d.serve r').1.serve r).1.ledger later := by
  refine ⟨ledger_about (Agree.refl key d) requests,
    (agree_after (Agree.refl key d) requests).lease, ?_⟩
  intro r r' k k' hr hr' hne
  have halike := alike_swap hr hr' hne d
  exact ⟨reply_after_other hr hr' hne d, reply_after_other hr' hr hne.symm d, halike,
    halike.ledger⟩

/-- Two visitors on one key and one on another. -/
def twoKeys : List Request :=
  [.claim "a" "k" .modification, .claim "b" "l" .modification, .claim "c" "k" .modification,
    .pass (Span.ofSeconds 66), .holder "l", .claim "c" "k" .modification, .holder "k"]

/-- Without the visits about the other key, the three claims on this one are
answered as before, and the two first visits can come in either order. -/
theorem keys_apart_twoKeys :
    ((opened 0).ledger (twoKeys.filter (·.about "k"))).map Entry.reply
        = [.claimed true, .claimed false, .passed, .claimed true, .holder (some "c")]
    ∧ (((opened 0).ledger twoKeys).filter fun entry => entry.request.about "k").map Entry.reply
        = [.claimed true, .claimed false, .passed, .claimed true, .holder (some "c")]
    ∧ "k" ≠ "l"
    ∧ (((opened 0).serve (.claim "a" "k" .modification)).1.serve
          (.claim "b" "l" .modification)).1.Alike
        (((opened 0).serve (.claim "b" "l" .modification)).1.serve
          (.claim "a" "k" .modification)).1 := by
  have h := keys_apart (opened 0) twoKeys "k"
  have hreplies : ((opened 0).ledger (twoKeys.filter (·.about "k"))).map Entry.reply
      = [.claimed true, .claimed false, .passed, .claimed true, .holder (some "c")] := by
    decide +kernel
  refine ⟨hreplies, h.1 ▸ hreplies, by decide, ?_⟩
  exact (h.2.2 (.claim "a" "k" .modification) (.claim "b" "l" .modification) "k" "l" rfl rfl
    (by decide)).2.2.1

end Desk

end FormLease
