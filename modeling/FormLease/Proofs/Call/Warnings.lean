import FormLease.Proofs.Call.InStep
import FormLease.Proofs.Call.Log

/-!
# Warnings of a release

A release that fails gives its caller nothing to see. It comes to a normal
end, and because its claimant stops counting as holding at the begin, the
claimant says nothing when it leaves either. What is left is the log.

A release can fail in three ways: the store fails, there is no further
attempt, or a backoff is cut short. The first two are warned of. The third
is not: its note stands below the level of a warning, and a log that shows
warnings only shows nothing of such a release (`release_unwarned`). So a
release warns if and only if it was neither granted nor cut short
(`release_warns_iff`).
-/

namespace FormLease

def Event.warns : Event → Bool
  | note n => n.level == .warn
  | entered _ | measure _ => false

/-- The warnings among what the claimant tells in these contacts. -/
def warnings (contacts : List Contact) : List Event := (tellings contacts).filter Event.warns

/-! ## Rounds and closings -/

theorem filter_roundsTellings_release (attempt : Nat) (delays : List Span) :
    (Claimant.roundsTellings .release attempt delays).filter Event.warns = [] := by
  induction delays generalizing attempt with
  | nil => rfl
  | cons delay delays ih =>
      rw [Claimant.roundsTellings, List.filter_append, ih]
      rfl

namespace Closing

/-- What a release warns of, with the number of its last attempt. -/
def warnings (c : Claimant) (attempt : Nat) : Closing → List Event
  | granted | interrupted _ _ => []
  | failed fault => [.note (.releaseFailed attempt (.lease fault))]
  | exhausted => [.note (.gaveUp c.policy.tries)]

theorem filter_tellings_release (c : Claimant) (attempt : Nat) (k : Closing) :
    (k.tellings c .release attempt).filter Event.warns = k.warnings c attempt := by
  cases k <;> rfl

theorem warnings_ne_nil_iff (c : Claimant) (attempt : Nat) (k : Closing) :
    k.warnings c attempt ≠ [] ↔ k.reply ≠ .ok true ∧ k.cut = [] := by
  cases k <;> simp [warnings, reply, cut]

end Closing

namespace Claimant

variable {σ : Type} (w : Surroundings σ) (c : Claimant) (s : σ)

/-- The log of a release, by answers, ends of backoffs, and warnings. -/
theorem release_log : ∃ (delays : List Span) (k : Closing),
    replies (c.contacts .release w s) = List.replicate delays.length (.ok false) ++ [k.reply]
    ∧ results (c.contacts .release w s) = List.replicate delays.length (.ok ()) ++ k.cut
    ∧ tellings (c.contacts .release w s) = .entered .release ::
      (roundsTellings .release 1 delays ++ k.tellings c .release (1 + delays.length))
    ∧ warnings (c.contacts .release w s) = k.warnings c (1 + delays.length) := by
  obtain ⟨delays, k, log⟩ := c.call_log .release w s
  refine ⟨delays, k, log.replies, log.results, log.tellings, ?_⟩
  rw [warnings, log.tellings, List.filter_cons_of_neg (by decide), List.filter_append,
    filter_roundsTellings_release, Closing.filter_tellings_release, List.nil_append]

/-- A release that is cut short tells so, below a warning. -/
theorem unwarned_of_cut {text : String} (hcut : .error text ∈ results (c.contacts .release w s)) :
    warnings (c.contacts .release w s) = []
      ∧ .note (.releaseInterrupted (replies (c.contacts .release w s)).length (.interrupted text))
        ∈ tellings (c.contacts .release w s) := by
  obtain ⟨delays, k, hreplies, hresults, htold, hwarnings⟩ := c.release_log w s
  rw [hresults] at hcut
  -- the rounds before ended well, so it is the closing that was cut short
  obtain ⟨delay, rfl⟩ : ∃ delay, k = .interrupted delay text := by
    rcases List.mem_append.mp hcut with hround | hclosing
    · cases List.eq_of_mem_replicate hround
    · cases k with
      | interrupted delay reason =>
          obtain rfl := Except.error.inj (List.mem_singleton.mp hclosing)
          exact ⟨delay, rfl⟩
      | _ => cases hclosing
  refine ⟨hwarnings, ?_⟩
  rw [hreplies, htold, List.length_append, List.length_replicate, List.length_singleton,
    Nat.add_comm]
  refine List.mem_cons_of_mem _ (List.mem_append_right _ ?_)
  simp [Closing.tellings, interrupted]

/-- **When a release warns.** Let a claimant release under any policy, with
any answers to its attempts and any ends of its backoffs. There is a
warning in what it tells if and only if no attempt was granted and no
backoff was cut short.

If a backoff was cut short, the claimant tells so in a note that gives the
number of the attempt and the reason. Afterwards it has nothing to say
when it leaves, however the release went. -/
theorem release_warns_iff :
    (warnings (c.contacts .release w s) ≠ [] ↔
      .ok true ∉ replies (c.contacts .release w s)
        ∧ ∀ result ∈ results (c.contacts .release w s), result = .ok ())
    ∧ (∀ text, .error text ∈ results (c.contacts .release w s) →
      warnings (c.contacts .release w s) = []
        ∧ .note (.releaseInterrupted (replies (c.contacts .release w s)).length (.interrupted text))
          ∈ tellings (c.contacts .release w s))
    ∧ (c.perform .release w s).claimant.leave = [] := by
  obtain ⟨delays, k, hreplies, hresults, -, hwarnings⟩ := c.release_log w s
  refine ⟨?_, fun text hcut => c.unwarned_of_cut w s hcut, ?_⟩
  · rw [hwarnings, hreplies, hresults, Closing.warnings_ne_nil_iff]
    cases k <;> simp [Closing.reply, Closing.cut]
  · have hheld : (c.perform .release w s).claimant.held = false := by
      rw [held_perform]
    rw [leave, if_neg (by simp [hheld])]

/-- A release that is turned down once and then cut short in its backoff:
no attempt was granted, and there is no warning. -/
theorem release_unwarned :
    let c := create ⟨"f", 0⟩ "a" "u" fun _ => 0
    let w := reciting (fun _ => .ok false) fun _ => .error "stop"
    .ok true ∉ replies (c.contacts .release w (0, 0))
    ∧ results (c.contacts .release w (0, 0)) = [.error "stop"]
    ∧ warnings (c.contacts .release w (0, 0)) = [] := by
  intro c w
  have hno : w.ask .release c.id c.key.text c.kind (0, 0) = (.ok false, (1, 0)) := rfl
  have hcut : w.rest c.backoff.next.1 (1, 0) = (.error "stop", (1, 1)) := rfl
  have hfirst : (c.begin .release).progress = .asking ⟨.release, 1, 3⟩ := rfl
  have hsleeping : ((c.begin .release).claimant.answered ⟨.release, 1, 3⟩ (.ok false)).progress
      = .sleeping ⟨.release, 1, 3⟩ c.backoff.next.1 := rfl
  have hdealings : c.dealings .release w (0, 0)
      = [c.attempt .release (.ok false), .rested c.backoff.next.1 (.error "stop")] := by
    change (c.begin .release).dealings w (0, 0) = _
    rw [Turn.dealings_asking hfirst hno, Turn.dealings_sleeping hsleeping hcut,
      Turn.dealings_ended rfl]
    rfl
  have hreplies : replies (c.contacts .release w (0, 0)) = [.ok false] := by
    rw [replies, ← filterMap_dealing (fun _ _ => rfl), ← dealings, hdealings]
    rfl
  have hresults : results (c.contacts .release w (0, 0)) = [.error "stop"] := by
    rw [results, ← filterMap_dealing (fun _ _ => rfl), ← dealings, hdealings]
    rfl
  refine ⟨by rw [hreplies]; simp, hresults, ?_⟩
  exact (c.unwarned_of_cut w (0, 0) (hresults ▸ List.mem_cons_self)).1

end Claimant

end FormLease
