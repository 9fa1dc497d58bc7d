import FormLease.Backoff
import FormLease.Claimant.Event
import FormLease.LeaseKind
import FormLease.ResourceKey
import FormLease.RetryPolicy

/-!
# Claimants

A claimant asks for the lease on one resource, with an id of its own,
and gives it back. Each call is a bounded retry loop, and it is cut here
at every point where it has to wait for someone else: for the store's
answer to an attempt and for the end of a backoff. `begin`, `answered`
and `woken` say what the claimant does between two such points, so
whatever others do in the meantime is not this file's business.

A call that is turned down goes on after a backoff while the policy
allows a further attempt. It ends at once when the store says yes, and
also when the store or the wait fails: nobody can then tell who owns the
lease, and trying again would not be safe. A release that fails is not an
error, because the lease runs out by itself.
-/

namespace FormLease

structure Claimant where
  key : ResourceKey
  /-- Names this claimant in the store; no other claimant has it. -/
  id : String
  kind : LeaseKind
  user : String
  policy : RetryPolicy
  backoff : Backoff
  /-- The last acquire succeeded, and no release has begun since. -/
  held : Bool

structure Call where
  errand : Errand
  /-- The attempt it is at, counted from one. -/
  attempt : Nat
  /-- How many further attempts the policy allows. -/
  left : Nat
  deriving DecidableEq

/-- Where a call stands when the claimant has done its part. -/
inductive Progress where
  | asking (call : Call)
  | sleeping (call : Call) (delay : Span)
  | ended (outcome : Except LeaseFault Unit)

/-- What a claimant does between two waits. -/
structure Turn where
  claimant : Claimant
  events : List Event
  progress : Progress

namespace Claimant

/-- A claimant that has made no call yet, under the standard policy. -/
def create (key : ResourceKey) (id : String) (caller : String) (draws : Nat → Draw) : Claimant where
  key := key
  id := id
  kind := .modification
  user := caller
  policy := .standard
  backoff := .start RetryPolicy.standard.firstBound draws
  held := false

/-- Under another policy, and with draws that begin anew. -/
def withPolicy (c : Claimant) (policy : RetryPolicy) (draws : Nat → Draw) : Claimant :=
  { c with policy := policy, backoff := .start policy.firstBound draws }

/-- Begins a call. From here on a claimant that releases no longer
counts as holding, whatever comes of it. -/
def begin (c : Claimant) (errand : Errand) : Turn where
  claimant :=
    { c with
      backoff := c.backoff.reset
      held := match errand with
        | .acquire => c.held
        | .release => false }
  events := [.entered errand]
  progress := .asking ⟨errand, 1, c.policy.tries - 1⟩

/-- The call is over because the store or a wait failed. -/
def failure (c : Claimant) (cause : Fault) : LeaseFault := .storeFailed c.key.text cause

def turnedDownNote (errand : Errand) (attempt : Nat) : Note :=
  match errand with
  | .acquire => .busy attempt
  | .release => .rejected attempt

/-- The events of going to sleep: only an acquire puts it into the log. -/
def backoffEvents (errand : Errand) (attempt : Nat) (delay : Span) : List Event :=
  match errand with
  | .acquire => [.note (.backingOff attempt delay), .measure (.backoff delay)]
  | .release => [.measure (.backoff delay)]

def exhausted (c : Claimant) (errand : Errand) : Turn :=
  match errand with
  | .acquire =>
    { claimant := c
      events := [.note (.timedOut c.policy.tries),
        .measure (.acquireEnded .timeout c.policy.tries)]
      progress := .ended (.error (.timedOut c.id c.key.text)) }
  | .release =>
    { claimant := c
      events := [.note (.gaveUp c.policy.tries), .measure (.releaseEnded .gaveUp)]
      progress := .ended (.ok ()) }

/-- After an attempt that was turned down: a backoff if a further one is
allowed. -/
def turnedDown (c : Claimant) (call : Call) : Turn :=
  let turn :=
    if call.left = 0 then c.exhausted call.errand
    else
      let (delay, backoff) := c.backoff.next
      { claimant := { c with backoff := backoff }
        events := backoffEvents call.errand call.attempt delay
        progress := .sleeping call delay }
  { turn with events := .note (turnedDownNote call.errand call.attempt) :: turn.events }

def granted (c : Claimant) (call : Call) : Turn :=
  match call.errand with
  | .acquire =>
    { claimant := { c with held := true }
      events := [.note (.acquired call.attempt),
        .measure (.acquireEnded .acquired call.attempt)]
      progress := .ended (.ok ()) }
  | .release =>
    { claimant := c
      events := [.note (.released call.attempt), .measure (.releaseEnded .released)]
      progress := .ended (.ok ()) }

def failed (c : Claimant) (call : Call) (fault : LeaseFault) : Turn :=
  match call.errand with
  | .acquire =>
    { claimant := c
      events := [.note (.claimFailed call.attempt (.lease fault)),
        .measure (.acquireEnded .storeFailure call.attempt)]
      progress := .ended (.error (c.failure (.lease fault))) }
  | .release =>
    { claimant := c
      events := [.note (.releaseFailed call.attempt (.lease fault)),
        .measure (.releaseEnded .storeFailure)]
      progress := .ended (.ok ()) }

def answered (c : Claimant) (call : Call) : Except LeaseFault Bool → Turn
  | .ok true => c.granted call
  | .ok false => c.turnedDown call
  | .error fault => c.failed call fault

def interrupted (c : Claimant) (call : Call) (text : String) : Turn :=
  match call.errand with
  | .acquire =>
    { claimant := c
      events := [.note (.claimInterrupted call.attempt (.interrupted text)),
        .measure (.acquireEnded .interrupted call.attempt)]
      progress := .ended (.error (c.failure (.interrupted text))) }
  | .release =>
    { claimant := c
      events := [.note (.releaseInterrupted call.attempt (.interrupted text)),
        .measure (.releaseEnded .interrupted)]
      progress := .ended (.ok ()) }

def woken (c : Claimant) (call : Call) : Except String Unit → Turn
  | .ok () =>
    { claimant := c
      events := []
      progress := .asking { call with attempt := call.attempt + 1, left := call.left - 1 } }
  | .error text => c.interrupted call text

/-- What is told when the claimant goes away: it cannot release any
more. -/
def leave (c : Claimant) : List Event :=
  if c.held then [.note (.leftHolding c.id c.key.text)] else []

/-- The fields that every line of a call's log carries. -/
def spanFields (c : Claimant) : Journal.Fields :=
  [("lock_id", .text c.id), ("resource_key", .text c.key.text), ("user", .text c.user)]

end Claimant

end FormLease
