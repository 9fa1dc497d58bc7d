import FormLease.Proofs.Table.Visit

/-!
# A table under a clock

A `Desk` is a lease table with the time of day, where one visitor comes
after the other and time passes between them. A visit is a `Request` and
gets a `Reply`; `ledger` writes down every visit of a run with its moment,
its request and its reply, and positions in the ledger are positions in
the run. Statements about histories are statements about ledgers.

`serve_cases` says what one visit can do to the lease of one key: a grant
puts a new one there, a release takes it away, and everything else leaves
it as it was.
-/

namespace FormLease

/-! ## Positions of a run -/

section StateBefore

variable {σ ρ : Type} (step : σ → ρ → σ) (s : σ) {inputs : List ρ} {n : Nat}

/-- The state of a machine before the input at a position of its run. -/
def stateBefore (inputs : List ρ) (n : Nat) : σ := (inputs.take n).foldl step s

theorem stateBefore_succ {r : ρ} (h : inputs[n]? = some r) :
    stateBefore step s inputs (n + 1) = step (stateBefore step s inputs n) r := by
  simp [stateBefore, List.take_add_one, h]

theorem stateBefore_of_end (h : inputs[n]? = none) :
    stateBefore step s inputs (n + 1) = stateBefore step s inputs n := by
  simp [stateBefore, List.take_add_one, h]

end StateBefore

/-! ## Desks -/

structure Desk where
  now : Moment
  table : LeaseTable

namespace Desk

inductive Request where
  | claim (id key : String) (kind : LeaseKind)
  | release (id key : String) (kind : LeaseKind)
  | holder (key : String)
  | active
  /-- Nobody comes, and time passes. -/
  | pass (time : Span)

inductive Reply where
  | claimed (yes : Bool)
  /-- The clock has no room for the lease asked for. -/
  | beyondHorizon
  | released (yes : Bool)
  | holder (id : Option String)
  | active (count : Nat)
  | passed
  deriving DecidableEq

def claimReply : LeaseTable.Claim → Reply
  | .granted _ => .claimed true
  | .busy => .claimed false
  | .beyondHorizon _ => .beyondHorizon

def serve (d : Desk) : Request → Desk × Reply
  | .claim id key kind =>
    let (table, claim) := d.table.claim d.now id key kind
    ({ d with table := table }, claimReply claim)
  | .release id key _ =>
    let (table, released) := d.table.release id key
    ({ d with table := table }, .released released)
  | .holder key => (d, .holder (d.table.holder? d.now key))
  | .active => (d, .active (d.table.active d.now))
  | .pass time => ({ d with now := d.now + time.nanos }, .passed)

def opened (now : Moment) : Desk := ⟨now, LeaseTable.empty⟩

/-- The lease that a key has at a desk, run out or not. -/
def lease? (d : Desk) (key : String) : Option Lease := d.table.slots.find? key

/-! ## Runs -/

structure Entry where
  moment : Moment
  request : Request
  reply : Reply

/-- The desk after a run. -/
def after (d : Desk) (requests : List Request) : Desk := requests.foldl (fun d r => (d.serve r).1) d

def ledger (d : Desk) : List Request → List Entry
  | [] => []
  | r :: rest => ⟨d.now, r, (d.serve r).2⟩ :: (d.serve r).1.ledger rest

/-- The desk before the visit at a position of the run. -/
def before (d : Desk) (requests : List Request) (n : Nat) : Desk :=
  stateBefore (fun d r => (d.serve r).1) d requests n

theorem before_succ {d : Desk} {requests : List Request} {n : Nat} {r : Request}
    (h : requests[n]? = some r) :
    d.before requests (n + 1) = ((d.before requests n).serve r).1 :=
  stateBefore_succ _ d h

theorem before_of_end {d : Desk} {requests : List Request} {n : Nat}
    (h : requests[n]? = none) : d.before requests (n + 1) = d.before requests n :=
  stateBefore_of_end _ d h

/-- The entry at a position, read off the desk before it. -/
theorem getElem?_ledger (d : Desk) (requests : List Request) (n : Nat) :
    (d.ledger requests)[n]? = requests[n]?.map fun r =>
      ⟨(d.before requests n).now, r, ((d.before requests n).serve r).2⟩ := by
  induction requests generalizing d n with
  | nil => rfl
  | cons r rest ih =>
      cases n with
      | zero => rfl
      | succ n => exact ih (d.serve r).1 n

theorem entry_eq {d : Desk} {requests : List Request} {n : Nat} {e : Entry}
    (h : (d.ledger requests)[n]? = some e) :
    requests[n]? = some e.request
      ∧ e.moment = (d.before requests n).now
      ∧ e.reply = ((d.before requests n).serve e.request).2 := by
  rw [getElem?_ledger, Option.map_eq_some_iff] at h
  obtain ⟨r, hr, rfl⟩ := h
  exact ⟨hr, rfl, rfl⟩

/-! ## One visit -/

section Visits

variable {d : Desk} {id key : String} {kind : LeaseKind}

theorem serve_claim_of_free (hfree : d.table.Free d.now key) (id : String)
    (hroom : d.now + kind.term.nanos < Moment.horizon) :
    d.serve (.claim id key kind)
      = (⟨d.now, d.table.granting d.now id key kind⟩, .claimed true) := by
  rcases d.table.claim_cases d.now id key kind with
    ⟨-, -, previous, hclaim⟩ | ⟨hbusy, -⟩ | ⟨-, hbeyond, -⟩
  · simp only [serve, hclaim, claimReply]
  · exact absurd hfree hbusy
  · exact absurd hroom (Nat.not_lt_of_le hbeyond)

theorem serve_claim_of_not_free (hbusy : ¬ d.table.Free d.now key) (id : String)
    (kind : LeaseKind) :
    d.serve (.claim id key kind) = (d, .claimed false) := by
  simp only [serve, LeaseTable.claim_of_not_free hbusy, claimReply]

theorem serve_claim_of_beyond (hfree : d.table.Free d.now key) (id : String)
    (hbeyond : Moment.horizon ≤ d.now + kind.term.nanos) :
    d.serve (.claim id key kind) = (d, .beyondHorizon) := by
  rcases d.table.claim_cases d.now id key kind with
    ⟨-, hroom, -⟩ | ⟨hbusy, -⟩ | ⟨-, -, previous, hclaim⟩
  · exact absurd hroom (Nat.not_lt_of_le hbeyond)
  · exact absurd hfree hbusy
  · simp only [serve, hclaim, claimReply]

/-- Everything that a claim can do at a desk. -/
theorem serve_claim_cases (d : Desk) (id key : String) (kind : LeaseKind) :
    (d.table.Free d.now key ∧ d.now + kind.term.nanos < Moment.horizon
        ∧ d.serve (.claim id key kind)
          = (⟨d.now, d.table.granting d.now id key kind⟩, .claimed true))
      ∨ (¬ d.table.Free d.now key ∧ d.serve (.claim id key kind) = (d, .claimed false))
      ∨ (d.table.Free d.now key ∧ Moment.horizon ≤ d.now + kind.term.nanos
        ∧ d.serve (.claim id key kind) = (d, .beyondHorizon)) := by
  by_cases hfree : d.table.Free d.now key
  · rcases Nat.lt_or_ge (d.now + kind.term.nanos) Moment.horizon with hroom | hbeyond
    · exact Or.inl ⟨hfree, hroom, serve_claim_of_free hfree id hroom⟩
    · exact Or.inr (Or.inr ⟨hfree, hbeyond, serve_claim_of_beyond hfree id hbeyond⟩)
  · exact Or.inr (Or.inl ⟨hfree, serve_claim_of_not_free hfree id kind⟩)

theorem serve_release_of_own {lease : Lease} (hslot : d.lease? key = some lease)
    (hid : lease.holder = id) :
    d.serve (.release id key kind) = (⟨d.now, d.table.without key⟩, .released true) := by
  rcases d.table.release_cases id key with ⟨-, -, -, hrelease⟩ | ⟨hother, -⟩
  · simp only [serve, hrelease]
  · exact absurd hid (hother lease hslot)

theorem serve_release_of_other (hother : ∀ lease, d.lease? key = some lease → lease.holder ≠ id) :
    d.serve (.release id key kind) = (d, .released false) := by
  rcases d.table.release_cases id key with ⟨lease, hslot, hid, -⟩ | ⟨-, hrelease⟩
  · exact absurd hid (hother lease hslot)
  · simp only [serve, hrelease]

/-- Everything that a release can do at a desk. -/
theorem serve_release_cases (d : Desk) (id key : String) (kind : LeaseKind) :
    (∃ lease, d.lease? key = some lease ∧ lease.holder = id
        ∧ d.serve (.release id key kind) = (⟨d.now, d.table.without key⟩, .released true))
      ∨ ((∀ lease, d.lease? key = some lease → lease.holder ≠ id)
        ∧ d.serve (.release id key kind) = (d, .released false)) := by
  by_cases hown : ∃ lease, d.lease? key = some lease ∧ lease.holder = id
  · obtain ⟨lease, hslot, hid⟩ := hown
    exact Or.inl ⟨lease, hslot, hid, serve_release_of_own hslot hid⟩
  · have hother : ∀ lease, d.lease? key = some lease → lease.holder ≠ id :=
      fun lease hslot hid => hown ⟨lease, hslot, hid⟩
    exact Or.inr ⟨hother, serve_release_of_other hother⟩

end Visits

/-- What a visit can do to the lease of a key. -/
theorem serve_cases (d : Desk) (r : Request) (key : String) :
    (∃ id kind, r = .claim id key kind ∧ (d.serve r).2 = .claimed true
        ∧ d.table.Free d.now key
        ∧ (d.serve r).1.lease? key = some ⟨id, d.now + kind.term.nanos⟩)
      ∨ (∃ id kind lease, r = .release id key kind ∧ (d.serve r).2 = .released true
        ∧ d.lease? key = some lease ∧ lease.holder = id
        ∧ (d.serve r).1.lease? key = none)
      ∨ ((∀ id kind, r = .claim id key kind → (d.serve r).2 ≠ .claimed true)
        ∧ (∀ id kind, r = .release id key kind → (d.serve r).2 ≠ .released true)
        ∧ (d.serve r).1.lease? key = d.lease? key) := by
  cases r with
  | claim id k kind =>
      rcases d.serve_claim_cases id k kind with ⟨hfree, -, h⟩ | ⟨-, h⟩ | ⟨-, -, h⟩ <;> rw [h]
      · by_cases hk : k = key
        · subst hk
          refine Or.inl ⟨id, kind, rfl, rfl, hfree, ?_⟩
          rw [lease?, LeaseTable.find?_granting, if_pos rfl]
        · refine Or.inr (Or.inr ⟨?_, by simp, ?_⟩)
          · intro id' kind' heq
            exact absurd (by injection heq) hk
          · rw [lease?, LeaseTable.find?_granting, if_neg fun h => hk h.symm, lease?]
      · exact Or.inr (Or.inr ⟨by simp, by simp, rfl⟩)
      · exact Or.inr (Or.inr ⟨by simp, by simp, rfl⟩)
  | release id k kind =>
      rcases d.serve_release_cases id k kind with ⟨lease, hslot, hid, h⟩ | ⟨-, h⟩ <;> rw [h]
      · by_cases hk : k = key
        · subst hk
          refine Or.inr (Or.inl ⟨id, kind, lease, rfl, rfl, hslot, hid, ?_⟩)
          rw [lease?, LeaseTable.find?_without, if_pos rfl]
        · refine Or.inr (Or.inr ⟨by simp, ?_, ?_⟩)
          · intro id' kind' heq
            exact absurd (by injection heq) hk
          · rw [lease?, LeaseTable.find?_without, if_neg fun h => hk h.symm, lease?]
      · exact Or.inr (Or.inr ⟨by simp, by simp, rfl⟩)
  | holder k => exact Or.inr (Or.inr ⟨by simp, by simp, rfl⟩)
  | active => exact Or.inr (Or.inr ⟨by simp, by simp, rfl⟩)
  | pass time => exact Or.inr (Or.inr ⟨by simp, by simp, rfl⟩)

end Desk

end FormLease
