import FormLease.Fault
import FormLease.Journal.Record
import FormLease.Span

/-!
# What claimants tell

The events of a claimant's calls: that a call has begun, the notes it
puts into the log, and what it contributes to the metrics.
-/

namespace FormLease

inductive Errand where
  | acquire | release
  deriving DecidableEq

def Errand.name : Errand → String
  | acquire => "acquire"
  | release => "release"

inductive AcquireOutcome where
  | acquired | timeout | storeFailure | interrupted
  deriving DecidableEq

def AcquireOutcome.label : AcquireOutcome → String
  | acquired => "acquired"
  | timeout => "timeout"
  | storeFailure => "store_failure"
  | interrupted => "interrupted"

inductive ReleaseOutcome where
  | released | gaveUp | storeFailure | interrupted
  deriving DecidableEq

def ReleaseOutcome.label : ReleaseOutcome → String
  | released => "released"
  | gaveUp => "gave_up"
  | storeFailure => "store_failure"
  | interrupted => "interrupted"

inductive Note where
  | acquired (attempt : Nat)
  | busy (attempt : Nat)
  | claimFailed (attempt : Nat) (cause : Fault)
  | backingOff (attempt : Nat) (delay : Span)
  | claimInterrupted (attempt : Nat) (cause : Fault)
  | timedOut (tries : Nat)
  | released (attempt : Nat)
  | rejected (attempt : Nat)
  | releaseFailed (attempt : Nat) (cause : Fault)
  | releaseInterrupted (attempt : Nat) (cause : Fault)
  | gaveUp (tries : Nat)
  /-- The claimant went away with its lease. -/
  | leftHolding (id resourceKey : String)

inductive Measure where
  | acquireEnded (outcome : AcquireOutcome) (attempts : Nat)
  | releaseEnded (outcome : ReleaseOutcome)
  | backoff (delay : Span)
  deriving DecidableEq

inductive Event where
  | entered (errand : Errand)
  | note (note : Note)
  | measure (measure : Measure)

namespace Note

open Journal

/-- The part of the program that claimants speak as. -/
def target : String := "submission_lock::lock::bucketed_lock"

def level : Note → Level
  | claimFailed _ _ | claimInterrupted _ _ | timedOut _ | releaseFailed _ _ | gaveUp _
  | leftHolding _ _ => .warn
  | acquired _ | busy _ | backingOff _ _ | released _ | rejected _ | releaseInterrupted _ _ =>
    .debug

def message : Note → String
  | acquired _ => "Submission lock acquired"
  | busy _ => "Submission lock busy"
  | claimFailed _ _ => "Lock store failed during acquire"
  | backingOff _ _ => "Lock not acquired, backing off"
  | claimInterrupted _ _ => "Backoff interrupted during acquire"
  | timedOut _ => "Timed out acquiring submission lock"
  | released _ => "Submission lock released"
  | rejected _ => "Submission lock release rejected"
  | releaseFailed _ _ => "Lock store failed during release - lock will expire via TTL"
  | releaseInterrupted _ _ => "Backoff interrupted, abandoning release"
  | gaveUp _ => "Gave up releasing submission lock - lock will expire via TTL"
  | leftHolding _ _ => "BucketedRetryLock dropped while held - lock will expire via TTL"

def fields : Note → Fields
  | acquired attempt | busy attempt | released attempt | rejected attempt =>
    [("attempt", .number attempt)]
  | backingOff attempt delay => [("attempt", .number attempt), ("backoff_ms", .number delay.millisWord)]
  | claimFailed attempt cause | claimInterrupted attempt cause | releaseFailed attempt cause
  | releaseInterrupted attempt cause =>
    [("attempt", .number attempt), ("error", .text cause.message)]
  | timedOut tries | gaveUp tries => [("tries", .number tries)]
  | leftHolding id resourceKey => [("lock_id", .text id), ("resource_key", .text resourceKey)]

def record (n : Note) : Record := ⟨n.level, target, n.message, n.fields⟩

end Note

inductive Sample where
  | counter (name : String) (labels : List (String × String)) (increment : Nat)
  /-- The value is a binary64 magnitude. -/
  | histogram (name : String) (value : Nat)
  deriving DecidableEq

/-- What a measure adds to the metrics, in this order. -/
def Measure.samples : Measure → List Sample
  | acquireEnded outcome attempts =>
    [.counter "submission_lock_acquire_total" [("outcome", outcome.label)] 1,
      .histogram "submission_lock_acquire_attempts" (Magnitude.ofNat attempts)]
  | releaseEnded outcome =>
    [.counter "submission_lock_release_total" [("outcome", outcome.label)] 1]
  | backoff delay => [.histogram "submission_lock_backoff_seconds" delay.binarySeconds]

end FormLease
