import FormLease.Proofs.Call.Log
import FormLease.Proofs.Call.Waits
import FormLease.Proofs.Fraction

/-!
# What a call leaves in the metrics

A call has eight ends, four for each errand, and each of them measures on
its own: there is no place that all calls pass through. In the log the ends
are the four closings, and the measures of a call are one backoff for each
of its waits and then one measure of the end (`CallLog.samples`). How many
attempts an acquire counts comes from two places. The end by exhaustion
takes the number from the policy, the other ends take that of their last
attempt, and as an exhausted call has made all attempts, it is the number of
attempts in each case.
-/

namespace FormLease

def Event.samples : Event → List Sample
  | measure m => m.samples
  | entered _ | note _ => []

/-- What these events add to the metrics, in order. -/
def samplesOf (events : List Event) : List Sample := events.flatMap Event.samples

namespace Sample

/-- The increments of the counter of that name, with their labels. -/
def increment? (name : String) : Sample → Option (List (String × String) × Nat)
  | counter n labels increment => if n = name then some (labels, increment) else none
  | histogram _ _ => none

/-- The values in the histogram of that name. -/
def value? (name : String) : Sample → Option Nat
  | counter _ _ _ => none
  | histogram n value => if n = name then some value else none

end Sample

def increments (name : String) (samples : List Sample) : List (List (String × String) × Nat) :=
  samples.filterMap (Sample.increment? name)

def values (name : String) (samples : List Sample) : List Nat :=
  samples.filterMap (Sample.value? name)

def acquireTotal : String := "submission_lock_acquire_total"

def releaseTotal : String := "submission_lock_release_total"

def acquireAttempts : String := "submission_lock_acquire_attempts"

def backoffSeconds : String := "submission_lock_backoff_seconds"

theorem samplesOf_append (events later : List Event) :
    samplesOf (events ++ later) = samplesOf events ++ samplesOf later :=
  List.flatMap_append

theorem increments_append (name : String) (samples later : List Sample) :
    increments name (samples ++ later) = increments name samples ++ increments name later :=
  List.filterMap_append

theorem values_append (name : String) (samples later : List Sample) :
    values name (samples ++ later) = values name samples ++ values name later :=
  List.filterMap_append

/-- What waits of these lengths add to the metrics. -/
def backoffSamples (delays : List Span) : List Sample :=
  delays.map fun delay => .histogram backoffSeconds delay.binarySeconds

theorem backoffSamples_append (delays later : List Span) :
    backoffSamples (delays ++ later) = backoffSamples delays ++ backoffSamples later :=
  List.map_append

theorem values_backoffSamples (delays : List Span) :
    values backoffSeconds (backoffSamples delays) = delays.map Span.binarySeconds := by
  simp [values, backoffSamples, Sample.value?, List.filterMap_map, Function.comp_def]

theorem values_backoffSamples_of_ne {name : String} (h : backoffSeconds ≠ name)
    (delays : List Span) : values name (backoffSamples delays) = [] := by
  simp [values, backoffSamples, Sample.value?, h]

theorem increments_backoffSamples (name : String) (delays : List Span) :
    increments name (backoffSamples delays) = [] := by
  simp [increments, backoffSamples, Sample.increment?]

/-! ## Rounds and closings -/

theorem samplesOf_roundsTellings (errand : Errand) (attempt : Nat) (delays : List Span) :
    samplesOf (Claimant.roundsTellings errand attempt delays) = backoffSamples delays := by
  induction delays generalizing attempt with
  | nil => rfl
  | cons delay delays ih =>
      rw [Claimant.roundsTellings, samplesOf_append, ih]
      cases errand <;> rfl

namespace Closing

/-- The wait that was begun in it. -/
def waits : Closing → List Span
  | interrupted delay _ => [delay]
  | granted | failed _ | exhausted => []

def acquireOutcome : Closing → AcquireOutcome
  | granted => .acquired
  | failed _ => .storeFailure
  | interrupted _ _ => .interrupted
  | exhausted => .timeout

def releaseOutcome : Closing → ReleaseOutcome
  | granted => .released
  | failed _ => .storeFailure
  | interrupted _ _ => .interrupted
  | exhausted => .gaveUp

/-- How the end of a call with so many attempts is measured. -/
def measure (errand : Errand) (attempts : Nat) (k : Closing) : Measure :=
  match errand with
  | .acquire => .acquireEnded k.acquireOutcome attempts
  | .release => .releaseEnded k.releaseOutcome

theorem waits_contacts (c : Claimant) (errand : Errand) (k : Closing) :
    FormLease.waits (k.contacts c errand) = k.waits := by
  cases k <;> rfl

theorem samplesOf_tellings {c : Claimant} {attempt : Nat} {k : Closing}
    (h : k = exhausted → c.policy.tries = attempt) (errand : Errand) :
    samplesOf (k.tellings c errand attempt)
      = backoffSamples k.waits ++ (k.measure errand attempt).samples := by
  cases k with
  | exhausted =>
      obtain rfl := h rfl
      cases errand <;> rfl
  | _ => cases errand <;> rfl

end Closing

theorem waits_rounds (c : Claimant) (errand : Errand) (delays : List Span) (k : Closing) :
    waits (delays.flatMap (c.round errand) ++ k.contacts c errand) = delays ++ k.waits := by
  induction delays with
  | nil => exact k.waits_contacts c errand
  | cons delay delays ih => exact congrArg (delay :: ·) ih

/-! ## Calls -/

section Calls

variable {σ : Type} {c : Claimant} {errand : Errand} {contacts : List Contact} {e : Ending σ}
  {delays : List Span} {k : Closing}

theorem CallLog.waits (log : CallLog c errand contacts e delays k) :
    waits contacts = delays ++ k.waits := by
  rw [← waits_rounds c errand, ← log.dealings]
  exact (filterMap_dealing (fun _ _ => rfl) contacts).symm

theorem CallLog.attempts (log : CallLog c errand contacts e delays k) :
    (FormLease.replies contacts).length = 1 + delays.length := by
  rw [log.replies, List.length_append, List.length_replicate, List.length_singleton, Nat.add_comm]

/-- A call measures its waits, and then its end. -/
theorem CallLog.samples (log : CallLog c errand contacts e delays k) :
    samplesOf (FormLease.tellings contacts) = backoffSamples (FormLease.waits contacts)
      ++ (k.measure errand (FormLease.replies contacts).length).samples := by
  have hlast : k = .exhausted → c.policy.tries = 1 + delays.length := by
    rintro rfl
    have hall : delays.length = c.policy.tries - 1 := log.fits
    have hpos := c.policy.tries_pos
    omega
  have hentered : samplesOf (.entered errand :: (Claimant.roundsTellings errand 1 delays
      ++ k.tellings c errand (1 + delays.length)))
      = samplesOf (Claimant.roundsTellings errand 1 delays
        ++ k.tellings c errand (1 + delays.length)) := rfl
  rw [log.tellings, hentered, samplesOf_append, samplesOf_roundsTellings,
    Closing.samplesOf_tellings hlast, log.waits, log.attempts, backoffSamples_append,
    List.append_assoc]

end Calls

/-! ## What is in the metrics after a call -/

/-- What a completed acquire with these contacts adds to the metrics. -/
structure AcquireMeasured {σ : Type} (contacts : List Contact) (e : Ending σ) : Prop where
  /-- One increment, whose label says what the acquire came to. -/
  total : ∃ label,
    increments acquireTotal (samplesOf (tellings contacts)) = [([("outcome", label)], 1)]
    ∧ (label = "acquired" ↔ e.outcome = .ok ())
    ∧ (label = "timeout" ↔ ∃ id key, e.outcome = .error (.timedOut id key))
    ∧ (label = "store_failure" ↔ ∃ key fault, e.outcome = .error (.storeFailed key (.lease fault))
      ∧ (replies contacts).getLast? = some (.error fault))
    ∧ (label = "interrupted" ↔ ∃ key text, e.outcome = .error (.storeFailed key (.interrupted text))
      ∧ (results contacts).getLast? = some (.error text))
  /-- One value, which is the number of its attempts. -/
  attempts : values acquireAttempts (samplesOf (tellings contacts))
    = [(replies contacts).length * Magnitude.one]
  backoffs : values backoffSeconds (samplesOf (tellings contacts))
    = (waits contacts).map Span.binarySeconds
  noRelease : increments releaseTotal (samplesOf (tellings contacts)) = []

/-- What a completed release with these contacts adds to the metrics. -/
structure ReleaseMeasured (contacts : List Contact) : Prop where
  /-- One increment, whose label says whether the release was granted. -/
  total : ∃ label,
    increments releaseTotal (samplesOf (tellings contacts)) = [([("outcome", label)], 1)]
    ∧ (label = "released" ↔ (replies contacts).getLast? = some (.ok true))
  backoffs : values backoffSeconds (samplesOf (tellings contacts))
    = (waits contacts).map Span.binarySeconds
  noAcquire : increments acquireTotal (samplesOf (tellings contacts)) = []
    ∧ values acquireAttempts (samplesOf (tellings contacts)) = []

section Calls

variable {σ : Type} {c : Claimant} {contacts : List Contact} {e : Ending σ} {delays : List Span}
  {k : Closing}

theorem CallLog.lastReply {errand : Errand} (log : CallLog c errand contacts e delays k) :
    (FormLease.replies contacts).getLast? = some k.reply := by
  rw [log.replies, List.getLast?_concat]

theorem CallLog.few {errand : Errand} (log : CallLog c errand contacts e delays k) :
    (FormLease.replies contacts).length < 2 ^ 53 := by
  have hfits := log.fits.le
  have hlt := c.policy.tries_lt
  rw [Nat.one_shiftLeft] at hlt
  rw [log.attempts]
  omega

/-- The last backoff was cut short exactly if that ended the call. -/
theorem CallLog.lastResult_iff {errand : Errand} (log : CallLog c errand contacts e delays k)
    (text : String) : (FormLease.results contacts).getLast? = some (.error text)
      ↔ ∃ delay, k = .interrupted delay text := by
  rw [log.results]
  cases k with
  | interrupted delay reason =>
      rw [Closing.cut, List.getLast?_concat]
      simp
  | _ =>
      simp only [Closing.cut, List.append_nil]
      constructor
      · intro h
        cases List.eq_of_mem_replicate (List.mem_of_getLast? h)
      · rintro ⟨delay, h⟩
        cases h

theorem CallLog.acquireMeasured (log : CallLog c .acquire contacts e delays k) :
    AcquireMeasured contacts e := by
  refine ⟨⟨k.acquireOutcome.label, ?_, ?_, ?_, ?_, ?_⟩, ?_, ?_, ?_⟩
  · rw [log.samples, increments_append, increments_backoffSamples]
    rfl
  · rw [log.outcome]
    cases k <;> simp [Closing.acquireOutcome, AcquireOutcome.label, Closing.outcome,
      Verdict.outcome]
  · rw [log.outcome]
    cases k <;> simp [Closing.acquireOutcome, AcquireOutcome.label, Closing.outcome,
      Verdict.outcome, Claimant.failure]
  · rw [log.outcome, log.lastReply]
    cases k <;> simp [Closing.acquireOutcome, AcquireOutcome.label, Closing.outcome,
      Verdict.outcome, Claimant.failure, Closing.reply]
  · simp only [log.lastResult_iff]
    rw [log.outcome]
    cases k <;> simp [Closing.acquireOutcome, AcquireOutcome.label, Closing.outcome,
      Verdict.outcome, Claimant.failure]
  · rw [log.samples, values_append, values_backoffSamples_of_ne (by decide), List.nil_append,
      ← Span.ofNat_of_lt log.few]
    rfl
  · rw [log.samples, values_append, values_backoffSamples]
    exact List.append_nil _
  · rw [log.samples, increments_append, increments_backoffSamples]
    rfl

theorem CallLog.releaseMeasured (log : CallLog c .release contacts e delays k) :
    ReleaseMeasured contacts := by
  refine ⟨⟨k.releaseOutcome.label, ?_, ?_⟩, ?_, ?_, ?_⟩
  · rw [log.samples, increments_append, increments_backoffSamples]
    rfl
  · rw [log.lastReply]
    cases k <;> simp [Closing.releaseOutcome, ReleaseOutcome.label, Closing.reply]
  · rw [log.samples, values_append, values_backoffSamples]
    exact List.append_nil _
  · rw [log.samples, increments_append, increments_backoffSamples]
    rfl
  · rw [log.samples, values_append, values_backoffSamples_of_ne (by decide)]
    rfl

end Calls

end FormLease
