import FormLease.Proofs.Table.Desk

/-!
# Claims that are refused

A claim is refused for one of two reasons: the lease that its key has is
still running, or the clock could never show the end of the new one. Which
of them it is depends on the order of the tests. The key is looked at first,
so a running lease turns a claim down whatever term it asks for; and the end
of the term is known before anything is written, so a lease that has run out
is still there after a takeover that failed half way.

A refused claim leaves the desk as it was. The reply is all that there is of
it, and it can be deleted from any run, alone (`refused_claim`) or with all
others (`ledger_unrefused`), without any other visit being told anything
else.
-/

namespace FormLease

namespace Desk

/-- A claim was not granted. -/
def Reply.refuses : Reply → Bool
  | .claimed yes => !yes
  | .beyondHorizon => true
  | .released _ | .holder _ | .active _ | .passed => false

variable {d : Desk}

/-! ## One claim -/

theorem not_free_iff {key : String} :
    ¬ d.table.Free d.now key ↔ ∃ lease, d.lease? key = some lease ∧ d.now < lease.expiry := by
  simp only [LeaseTable.Free, lease?, Classical.not_forall, Nat.not_le, exists_prop]

theorem claimed_false_iff (d : Desk) (id key : String) (kind : LeaseKind) :
    (d.serve (.claim id key kind)).2 = .claimed false ↔ ¬ d.table.Free d.now key := by
  rcases d.serve_claim_cases id key kind with ⟨hfree, -, h⟩ | ⟨hbusy, h⟩ | ⟨hfree, -, h⟩ <;> rw [h]
  · exact ⟨fun heq => (by cases heq), fun hbusy => absurd hfree hbusy⟩
  · exact ⟨fun _ => hbusy, fun _ => rfl⟩
  · exact ⟨fun heq => (by cases heq), fun hbusy => absurd hfree hbusy⟩

theorem beyondHorizon_iff (d : Desk) (id key : String) (kind : LeaseKind) :
    (d.serve (.claim id key kind)).2 = .beyondHorizon ↔
      d.table.Free d.now key ∧ Moment.horizon ≤ d.now + kind.term.nanos := by
  rcases d.serve_claim_cases id key kind with
    ⟨-, hroom, h⟩ | ⟨hbusy, h⟩ | ⟨hfree, hbeyond, h⟩ <;> rw [h]
  · exact ⟨fun heq => (by cases heq), fun hno => absurd hroom (Nat.not_lt_of_le hno.2)⟩
  · exact ⟨fun heq => (by cases heq), fun hno => absurd hno.1 hbusy⟩
  · exact ⟨fun _ => ⟨hfree, hbeyond⟩, fun _ => rfl⟩

/-- A visit that is refused leaves the desk as it was. -/
theorem serve_of_refuses {r : Request} (h : (d.serve r).2.refuses = true) : (d.serve r).1 = d := by
  cases r with
  | claim id key kind =>
      rcases d.serve_claim_cases id key kind with ⟨-, -, hserve⟩ | ⟨-, hserve⟩ | ⟨-, -, hserve⟩
      · rw [hserve] at h
        cases h
      · rw [hserve]
      · rw [hserve]
  | release id key kind => cases h
  | holder key => rfl
  | active => rfl
  | pass time => cases h

theorem refuses_of_ne {id key : String} {kind : LeaseKind}
    (h : (d.serve (.claim id key kind)).2 ≠ .claimed true) :
    (d.serve (.claim id key kind)).2.refuses = true := by
  rcases d.serve_claim_cases id key kind with ⟨-, -, hserve⟩ | ⟨-, hserve⟩ | ⟨-, -, hserve⟩
  · exact absurd (congrArg Prod.snd hserve) h
  · rw [hserve]
    rfl
  · rw [hserve]
    rfl

/-! ## Runs without them -/

theorem ledger_append (d : Desk) (earlier later : List Request) :
    d.ledger (earlier ++ later) = d.ledger earlier ++ (d.after earlier).ledger later := by
  induction earlier generalizing d with
  | nil => rfl
  | cons r rest ih => exact congrArg (_ :: ·) (ih (d.serve r).1)

theorem after_append (d : Desk) (earlier later : List Request) :
    d.after (earlier ++ later) = (d.after earlier).after later :=
  List.foldl_append

/-- The requests of a run without the claims that are refused in it. -/
def unrefused (d : Desk) : List Request → List Request
  | [] => []
  | r :: rest =>
    if (d.serve r).2.refuses then d.unrefused rest else r :: (d.serve r).1.unrefused rest

/-- What is left of a run is told the same as before. -/
theorem ledger_unrefused (d : Desk) (requests : List Request) :
    d.ledger (d.unrefused requests) = (d.ledger requests).filter fun e => !e.reply.refuses := by
  induction requests generalizing d with
  | nil => rfl
  | cons r rest ih =>
      cases hrefuses : (d.serve r).2.refuses with
      | true =>
          have hsame : (d.serve r).1 = d := serve_of_refuses hrefuses
          simp only [unrefused, ledger, hrefuses, if_true, List.filter_cons, Bool.not_true,
            Bool.false_eq_true, if_false, hsame]
          exact ih d
      | false =>
          simp only [unrefused, ledger, hrefuses, Bool.false_eq_true, if_false, List.filter_cons,
            Bool.not_false, if_true]
          exact congrArg (_ :: ·) (ih (d.serve r).1)

theorem after_unrefused (d : Desk) (requests : List Request) :
    d.after (d.unrefused requests) = d.after requests := by
  induction requests generalizing d with
  | nil => rfl
  | cons r rest ih =>
      cases hrefuses : (d.serve r).2.refuses with
      | true =>
          have hafter : d.after (r :: rest) = d.after rest :=
            congrArg (fun e : Desk => e.after rest) (serve_of_refuses hrefuses)
          simp only [unrefused, hrefuses, if_true, hafter]
          exact ih d
      | false =>
          simp only [unrefused, hrefuses, Bool.false_eq_true, if_false]
          exact ih (d.serve r).1

/-- **A refused claim changes nothing.** Take any desk, in any state and at
any time, and a claim for any key and term.

It is turned down if and only if the lease on the key is still running, and
then whatever its term is. It fails because of the clock if and only if the
key has no running lease and the new one would end beyond the horizon.

Whichever it is, the clock and all leases are the very same afterwards, also
the lease that had run out. If the claim comes up in a run, what went before
and what comes later is told what it would have been told without the claim,
and so are all that go to the desk after the run. The same is true if all
refused claims of a run are left out at once. -/
theorem refused_claim (d : Desk) (id key : String) (kind : LeaseKind) :
    ((d.serve (.claim id key kind)).2 = .claimed false ↔
      ∃ lease, d.lease? key = some lease ∧ d.now < lease.expiry)
    ∧ ((d.serve (.claim id key kind)).2 = .beyondHorizon ↔
      (∀ lease, d.lease? key = some lease → lease.expiry ≤ d.now)
        ∧ Moment.horizon ≤ d.now + kind.term.nanos)
    ∧ ((d.serve (.claim id key kind)).2 ≠ .claimed true →
      (d.serve (.claim id key kind)).1 = d
        ∧ ∀ (e : Desk) (earlier later : List Request), e.after earlier = d →
          e.ledger (earlier ++ .claim id key kind :: later)
              = e.ledger earlier
                ++ ⟨d.now, .claim id key kind, (d.serve (.claim id key kind)).2⟩ :: d.ledger later
            ∧ e.ledger (earlier ++ later) = e.ledger earlier ++ d.ledger later
            ∧ e.after (earlier ++ .claim id key kind :: later) = e.after (earlier ++ later))
    ∧ ∀ requests, d.ledger (d.unrefused requests)
          = (d.ledger requests).filter (fun e => !e.reply.refuses)
        ∧ d.after (d.unrefused requests) = d.after requests := by
  refine ⟨(d.claimed_false_iff id key kind).trans not_free_iff, d.beyondHorizon_iff id key kind,
    fun hno => ?_, fun requests => ⟨d.ledger_unrefused requests, d.after_unrefused requests⟩⟩
  have hsame : (d.serve (.claim id key kind)).1 = d := serve_of_refuses (refuses_of_ne hno)
  refine ⟨hsame, fun e earlier later hd => ⟨?_, ?_, ?_⟩⟩
  · rw [ledger_append, hd, ledger, hsame]
  · rw [ledger_append, hd]
  · rw [after_append, after_append, hd]
    exact congrArg (fun e : Desk => e.after later) hsame

/-- A term that no clock can show the end of. -/
def endless : LeaseKind := ⟨"ENDLESS", Span.longest⟩

/-- One lease has run out and one is running. -/
def halfPast : List Request :=
  [.claim "a" "k" .modification, .pass (Span.ofSeconds 66), .claim "b" "l" .modification]

/-- The desk after that. -/
def halfPastDesk : Desk := (opened 0).after halfPast

/-- A takeover of the lease that has run out fails because of the clock, and
its old holder can release it after that. The same claim for the lease that
is running is turned down. -/
theorem refused_claim_takeover :
    halfPastDesk.lease? "k" = some ⟨"a", 66000000000⟩
    ∧ (halfPastDesk.serve (.claim "c" "k" endless)).2 ≠ .claimed true
    ∧ (halfPastDesk.serve (.claim "c" "k" endless)).2 = .beyondHorizon
    ∧ (halfPastDesk.serve (.claim "c" "l" endless)).2 = .claimed false
    ∧ (halfPastDesk.serve (.claim "c" "k" endless)).1.lease? "k" = some ⟨"a", 66000000000⟩
    ∧ (opened 0).after halfPast = halfPastDesk
    ∧ (opened 0).ledger (halfPast ++ [.claim "c" "k" endless, .release "a" "k" .modification])
      = (opened 0).ledger halfPast
        ++ [⟨66000000000, .claim "c" "k" endless, .beyondHorizon⟩,
          ⟨66000000000, .release "a" "k" .modification, .released true⟩] := by
  have hlease : halfPastDesk.lease? "k" = some ⟨"a", 66000000000⟩ := by decide +kernel
  have hnow : halfPastDesk.now = 66000000000 := by decide +kernel
  have hreply : (halfPastDesk.serve (.claim "c" "k" endless)).2 = .beyondHorizon := by
    decide +kernel
  have hrelease : (halfPastDesk.serve (.release "a" "k" .modification)).2 = .released true := by
    decide +kernel
  have hrefused : (halfPastDesk.serve (.claim "c" "k" endless)).2 ≠ .claimed true := by
    rw [hreply]
    decide
  obtain ⟨-, -, hvain, -⟩ := refused_claim halfPastDesk "c" "k" endless
  obtain ⟨hsame, hruns⟩ := hvain hrefused
  refine ⟨hlease, hrefused, hreply, by decide +kernel, hsame ▸ hlease, rfl, ?_⟩
  rw [(hruns (opened 0) halfPast [.release "a" "k" .modification] rfl).1, hreply, ledger, ledger,
    hrelease, hnow]

end Desk

end FormLease
