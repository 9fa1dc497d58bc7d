import FormLease.Proofs.Call.Rounds

/-!
# What an acquire lets its caller see

A full account of an acquire, for any store and any way of waiting: what
it asks and in which order, when it stops, and which of the three results
it gives then. All of it is read off the rounds and the closing of the
call. Which closing it was can be told from the last dealing, but for one
thing: a call that is turned down at its last attempt ends in the same
dealing as a round that is not over, and there it is the number of
attempts that tells.
-/

namespace FormLease

/-- Nothing follows it in a call: the store has said yes, or something has
failed. -/
def Contact.final : Contact → Bool
  | .asked _ _ _ _ (.ok false) => false
  | .rested _ (.ok ()) => false
  | _ => true

/-- In which order a claimant deals with its surroundings in a call. -/
structure TakesTurns (c : Claimant) (errand : Errand) (log : List Contact) : Prop where
  nonempty : log ≠ []
  /-- Attempts, all for the same lease, and backoffs take turns. -/
  alternate : ∀ i x, log[i]? = some x →
    (i % 2 = 0 → ∃ reply, x = .asked errand c.id c.key.text c.kind reply)
      ∧ (i % 2 = 1 → ∃ delay result, x = .rested delay result)
  attempts : (replies log).length ≤ c.policy.tries
  backoffs : (results log).length ≤ c.policy.tries - 1
  /-- No backoff follows the last attempt that the policy allows. -/
  length : log.length + 1 ≤ 2 * c.policy.tries
  stops : ∀ i x, log[i]? = some x → x.final = true → i + 1 = log.length

/-- What comes of an acquire with these dealings. -/
structure AcquireAccount {σ : Type} (c : Claimant) (log : List Contact) (e : Ending σ) : Prop
    extends TakesTurns c .acquire log where
  ok_iff : e.outcome = .ok () ↔ (replies log).getLast? = some (.ok true)
  timedOut_iff : ∀ id key, e.outcome = .error (.timedOut id key) ↔
    (id = c.id ∧ key = c.key.text) ∧ replies log = List.replicate c.policy.tries (.ok false)
      ∧ results log = List.replicate (c.policy.tries - 1) (.ok ())
  /-- In all other cases the fault is that of the last dealing. -/
  fault : ∀ fault, e.outcome = .error fault → fault = .timedOut c.id c.key.text
    ∨ ∃ cause, fault = .storeFailed c.key.text cause ∧ fault.cause? = some cause
      ∧ log.getLast?.bind Contact.trouble? = some cause
  retryable : ∀ fault, e.outcome = .error fault →
    (fault.retryable = true ↔ fault = .timedOut c.id c.key.text)
  held : e.outcome = .ok () → e.claimant.held = true
  held_of_error : ∀ fault, e.outcome = .error fault → e.claimant.held = c.held

namespace Closing

variable {c : Claimant} {errand : Errand}

/-! ## What a closing shows -/

/-- The answer to the last attempt. -/
def reply : Closing → Except LeaseFault Bool
  | granted => .ok true
  | failed fault => .error fault
  | interrupted _ _ | exhausted => .ok false

/-- How the last backoff was cut short, if it was. -/
def cut : Closing → List (Except String Unit)
  | interrupted _ text => [.error text]
  | _ => []

/-- The fault that it is due to. -/
def cause? : Closing → Option Fault
  | failed fault => some (.lease fault)
  | interrupted _ text => some (.interrupted text)
  | granted | exhausted => none

theorem replies_contacts (k : Closing) : replies (k.contacts c errand) = [k.reply] := by
  cases k <;> rfl

theorem results_contacts (k : Closing) : results (k.contacts c errand) = k.cut := by
  cases k <;> rfl

theorem contacts_ne_nil (k : Closing) : k.contacts c errand ≠ [] := by
  cases k <;> exact List.cons_ne_nil _ _

/-! ## What an acquire makes of it -/

theorem outcome_acquire_ok_iff (k : Closing) :
    k.outcome c .acquire = .ok () ↔ k = granted := by
  cases k <;> simp [outcome, Verdict.outcome]

theorem reply_eq_yes_iff (k : Closing) : k.reply = .ok true ↔ k = granted := by
  cases k <;> simp [reply]

theorem eq_exhausted {k : Closing} (hno : k.reply = .ok false)
    (hslept : ∀ result ∈ k.cut, result = .ok ()) : k = exhausted := by
  cases k with
  | granted => cases hno
  | failed fault => cases hno
  | interrupted delay text => cases hslept (.error text) List.mem_cons_self
  | exhausted => rfl

theorem outcome_acquire_timedOut_iff (k : Closing) (id key : String) :
    k.outcome c .acquire = .error (.timedOut id key)
      ↔ (id = c.id ∧ key = c.key.text) ∧ k = exhausted := by
  cases k <;> simp [outcome, Verdict.outcome, Claimant.failure, eq_comm]

theorem outcome_acquire_error {k : Closing} {fault : LeaseFault}
    (h : k.outcome c .acquire = .error fault) :
    (k = exhausted ∧ fault = .timedOut c.id c.key.text)
      ∨ ∃ cause, k.cause? = some cause ∧ fault = .storeFailed c.key.text cause := by
  cases k with
  | granted => cases h
  | failed store => exact Or.inr ⟨_, rfl, (Except.error.inj h).symm⟩
  | interrupted delay text => exact Or.inr ⟨_, rfl, (Except.error.inj h).symm⟩
  | exhausted => exact Or.inl ⟨rfl, (Except.error.inj h).symm⟩

end Closing

/-! ## Rounds before a closing -/

section Rounds

variable {c : Claimant} {errand : Errand}

theorem replies_rounds (delays : List Span) (k : Closing) :
    replies (delays.flatMap (c.round errand) ++ k.contacts c errand)
      = List.replicate delays.length (.ok false) ++ [k.reply] := by
  induction delays with
  | nil => exact k.replies_contacts
  | cons delay delays ih => exact congrArg (Except.ok false :: ·) ih

theorem results_rounds (delays : List Span) (k : Closing) :
    results (delays.flatMap (c.round errand) ++ k.contacts c errand)
      = List.replicate delays.length (.ok ()) ++ k.cut := by
  induction delays with
  | nil => exact k.results_contacts
  | cons delay delays ih => exact congrArg (Except.ok () :: ·) ih

theorem length_rounds (delays : List Span) :
    (delays.flatMap (c.round errand)).length = 2 * delays.length := by
  induction delays with
  | nil => rfl
  | cons delay delays ih =>
      rw [List.flatMap_cons, List.length_append, ih, List.length_cons]
      simp only [Claimant.round, List.length_cons, List.length_nil]
      omega

/-- Attempts and backoffs take turns in rounds and in what follows them, if
they do so in that. -/
theorem alternate_rounds (delays : List Span) (k : Closing) (i : Nat) (x : Contact)
    (h : (delays.flatMap (c.round errand) ++ k.contacts c errand)[i]? = some x) :
    (i % 2 = 0 → ∃ reply, x = c.attempt errand reply)
      ∧ (i % 2 = 1 → ∃ delay result, x = .rested delay result) := by
  induction delays generalizing i with
  | nil =>
      match k, i with
      | .granted, 0 | .failed _, 0 | .exhausted, 0 | .interrupted _ _, 0 =>
          obtain rfl := Option.some.inj h
          exact ⟨fun _ => ⟨_, rfl⟩, fun hodd => (by cases hodd)⟩
      | .interrupted _ _, 1 =>
          obtain rfl := Option.some.inj h
          exact ⟨fun heven => (by cases heven), fun _ => ⟨_, _, rfl⟩⟩
  | cons delay delays ih =>
      match i with
      | 0 =>
          obtain rfl := Option.some.inj h
          exact ⟨fun _ => ⟨_, rfl⟩, fun hodd => (by cases hodd)⟩
      | 1 =>
          obtain rfl := Option.some.inj h
          exact ⟨fun heven => (by cases heven), fun _ => ⟨_, _, rfl⟩⟩
      | i + 2 =>
          rw [Nat.add_mod_right]
          exact ih i h

/-- Only the last dealing can be final. -/
theorem stops_rounds (delays : List Span) (k : Closing) (i : Nat) (x : Contact)
    (h : (delays.flatMap (c.round errand) ++ k.contacts c errand)[i]? = some x)
    (hfinal : x.final = true) :
    i + 1 = (delays.flatMap (c.round errand) ++ k.contacts c errand).length := by
  induction delays generalizing i with
  | nil =>
      match k, i with
      | .granted, 0 | .failed _, 0 | .exhausted, 0 => rfl
      | .interrupted _ _, 0 =>
          obtain rfl := Option.some.inj h
          cases hfinal
      | .interrupted _ _, 1 => rfl
  | cons delay delays ih =>
      match i with
      | 0 | 1 =>
          obtain rfl := Option.some.inj h
          cases hfinal
      | i + 2 => exact congrArg (· + 2) (ih i h)

theorem trouble_rounds (delays : List Span) (k : Closing) :
    (delays.flatMap (c.round errand) ++ k.contacts c errand).getLast?.bind Contact.trouble?
      = k.cause? := by
  rw [List.getLast?_append, List.getLast?_eq_some_getLast k.contacts_ne_nil, Option.some_or]
  cases k <;> rfl

end Rounds

/-! ## The account -/

namespace Claimant

variable {σ : Type} (c : Claimant)

theorem takesTurns_rounds {errand : Errand} {delays : List Span} {k : Closing}
    (fits : k.Fits (c.policy.tries - 1) delays.length) :
    TakesTurns c errand (delays.flatMap (c.round errand) ++ k.contacts c errand) := by
  have hpos := c.policy.tries_pos
  have hle : delays.length ≤ c.policy.tries - 1 := fits.le
  refine ⟨?_, alternate_rounds delays k, ?_, ?_, ?_, stops_rounds delays k⟩
  · exact List.append_ne_nil_of_right_ne_nil _ k.contacts_ne_nil
  · rw [replies_rounds, List.length_append, List.length_replicate, List.length_singleton]
    omega
  · rw [results_rounds, List.length_append, List.length_replicate]
    cases k with
    | interrupted delay text => exact fits
    | _ => exact hle
  · rw [List.length_append, length_rounds]
    cases k with
    | interrupted delay text =>
        have hlt : delays.length < c.policy.tries - 1 := fits
        simp only [Closing.contacts, List.length_cons, List.length_nil]
        omega
    | _ =>
        simp only [Closing.contacts, List.length_cons, List.length_nil]
        omega

theorem timedOut_iff_rounds {delays : List Span} {k : Closing}
    (fits : k.Fits (c.policy.tries - 1) delays.length) :
    k = .exhausted ↔
      replies (delays.flatMap (c.round .acquire) ++ k.contacts c .acquire)
          = List.replicate c.policy.tries (.ok false)
        ∧ results (delays.flatMap (c.round .acquire) ++ k.contacts c .acquire)
          = List.replicate (c.policy.tries - 1) (.ok ()) := by
  have hpos := c.policy.tries_pos
  rw [replies_rounds, results_rounds]
  constructor
  · rintro rfl
    have hall : delays.length = c.policy.tries - 1 := fits
    have htries : c.policy.tries = c.policy.tries - 1 + 1 := by omega
    refine ⟨?_, ?_⟩
    · rw [hall, htries, Nat.add_sub_cancel, List.replicate_succ']
      rfl
    · rw [hall]
      exact List.append_nil _
  · rintro ⟨hno, hslept⟩
    refine Closing.eq_exhausted ?_ fun result hresult => ?_
    · exact List.eq_of_mem_replicate (hno ▸ List.mem_append_right _ List.mem_cons_self)
    · exact List.eq_of_mem_replicate (hslept ▸ List.mem_append_right _ hresult)

/-- **The account of an acquire**, for every policy, every store and every
way of waiting.

Attempts and backoffs take turns, beginning with an attempt, and all
attempts are for the same lease in the same name. There are at most as
many attempts as the policy allows and at most one backoff less; nothing
follows an attempt that is granted, a fault, or the last attempt allowed.

The acquire succeeds if and only if its last attempt was granted. It is
out of time, and says with which id and for which key, if and only if all
the attempts allowed were made and turned down and all the backoffs
between them ended well. In every other case it fails with the fault that
stopped it as the cause. Being out of time is the one fault after which it
makes sense to try again, whatever the store's own fault says of that.

The claimant holds after success and is as it was after failure. -/
theorem acquire_account (w : Surroundings σ) (s : σ) :
    AcquireAccount c (c.dealings .acquire w s) (c.perform .acquire w s) := by
  obtain ⟨delays, k, rounds⟩ := rounds_perform w c .acquire s
  have hlog : c.dealings .acquire w s
      = delays.flatMap (c.round .acquire) ++ k.contacts c .acquire := rounds.dealings
  have houtcome : (c.perform .acquire w s).outcome = k.outcome c .acquire := rounds.outcome
  have hheld : (c.perform .acquire w s).claimant.held = k.held c.held .acquire := rounds.held
  have hfault : ∀ fault, k.outcome c .acquire = .error fault →
      fault = .timedOut c.id c.key.text ∨ ∃ cause, fault = .storeFailed c.key.text cause
        ∧ (delays.flatMap (c.round .acquire) ++ k.contacts c .acquire).getLast?.bind
          Contact.trouble? = some cause := by
    intro fault h
    rcases Closing.outcome_acquire_error h with ⟨-, hout⟩ | ⟨cause, hcause, hfailed⟩
    · exact Or.inl hout
    · exact Or.inr ⟨cause, hfailed, (trouble_rounds delays k).trans hcause⟩
  rw [hlog]
  refine ⟨c.takesTurns_rounds rounds.fits, ?_, ?_, ?_, ?_, ?_, ?_⟩
  all_goals rw [houtcome]
  · rw [Closing.outcome_acquire_ok_iff, replies_rounds, List.getLast?_concat, Option.some_inj,
      Closing.reply_eq_yes_iff]
  · intro id key
    rw [Closing.outcome_acquire_timedOut_iff, c.timedOut_iff_rounds rounds.fits]
  · intro fault h
    rcases hfault fault h with hout | ⟨cause, hfailed, htrouble⟩
    · exact Or.inl hout
    · exact Or.inr ⟨cause, hfailed, hfailed ▸ rfl, htrouble⟩
  · intro fault h
    rcases hfault fault h with rfl | ⟨cause, rfl, -⟩
    · exact ⟨fun _ => rfl, fun _ => rfl⟩
    · exact ⟨fun hagain => (by cases hagain), fun heq => (by cases heq)⟩
  · intro h
    rw [hheld, (Closing.outcome_acquire_ok_iff k).mp h]
    rfl
  · intro fault h
    rw [hheld]
    cases k with
    | granted => cases h
    | _ => rfl

end Claimant

end FormLease
