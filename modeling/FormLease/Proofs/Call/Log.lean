import FormLease.Proofs.Call.Account

/-!
# The log of a call

The contacts of a call as a caller, a server or a collector of metrics sees
them: the answers to its attempts, the ends of its backoffs, and what it
tells. All three are given by the delays of its rounds and its closing, and
so is the outcome; a statement about whole calls that relates some of them
is a statement about four closings.
-/

namespace FormLease

/-- What is not told is among the dealings. -/
theorem filterMap_dealing {α : Type} {f : Contact → Option α}
    (htold : ∀ teller event, f (.heard teller event) = none) (log : List Contact) :
    (log.filter Contact.dealing).filterMap f = log.filterMap f := by
  rw [List.filterMap_filter]
  congr 1
  funext x
  cases x with
  | heard teller event => exact (htold teller event).symm
  | _ => rfl

/-- A log of rounds with these delays and of this closing. -/
structure CallLog {σ : Type} (c : Claimant) (errand : Errand) (log : List Contact) (e : Ending σ)
    (delays : List Span) (k : Closing) : Prop where
  fits : k.Fits (c.policy.tries - 1) delays.length
  dealings : log.filter Contact.dealing = delays.flatMap (c.round errand) ++ k.contacts c errand
  replies : replies log = List.replicate delays.length (.ok false) ++ [k.reply]
  results : results log = List.replicate delays.length (.ok ()) ++ k.cut
  tellings : tellings log = .entered errand ::
    (Claimant.roundsTellings errand 1 delays ++ k.tellings c errand (1 + delays.length))
  outcome : e.outcome = k.outcome c errand

theorem Claimant.call_log {σ : Type} (c : Claimant) (errand : Errand) (w : Surroundings σ) (s : σ) :
    ∃ delays k, CallLog c errand (c.contacts errand w s) (c.perform errand w s) delays k := by
  obtain ⟨delays, k, rounds⟩ := rounds_perform w c errand s
  have hlog : (c.contacts errand w s).filter Contact.dealing
      = delays.flatMap (c.round errand) ++ k.contacts c errand := rounds.dealings
  refine ⟨delays, k, rounds.fits, hlog, ?_, ?_, rounds.told _ rfl, rounds.outcome⟩
  · rw [← replies_rounds, ← hlog]
    exact (filterMap_dealing (fun _ _ => rfl) _).symm
  · rw [← results_rounds, ← hlog]
    exact (filterMap_dealing (fun _ _ => rfl) _).symm

end FormLease
