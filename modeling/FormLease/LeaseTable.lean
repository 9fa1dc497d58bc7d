import FormLease.Directory
import FormLease.Journal.Record
import FormLease.LeaseKind

/-!
# Lease tables

The leases of one process, by resource key. A lease that has run out
stays in the table until someone takes it over or its own holder
releases it, but it counts as absent everywhere else: for `claim`, for
`holder?` and for `active`, and with the same limit in all three. A
lease runs out at its expiry, not after it.
-/

namespace FormLease

/-- A moment, in nanoseconds since the clock was started. -/
abbrev Moment := Nat

/-- The clock cannot show this moment or a later one: 2^63 seconds. -/
def Moment.horizon : Moment := (1 <<< 63) * 1000000000

structure Lease where
  holder : String
  expiry : Moment
  deriving DecidableEq

def Lease.expired (l : Lease) (now : Moment) : Bool := decide (l.expiry ≤ now)

structure LeaseTable where
  slots : Directory Lease

namespace LeaseTable

def empty : LeaseTable := ⟨Directory.empty⟩

/-- What a claim met. Where a lease had run out, its holder is named. -/
inductive Claim where
  | granted (previous : Option String)
  | busy
  /-- The new lease would run out beyond the horizon, and nothing was
  changed. -/
  | beyondHorizon (previous : Option String)
  deriving DecidableEq

/-- What the log says about a lease that is taken over. -/
def takeoverRecord (key previous : String) : Journal.Record where
  level := .debug
  target := "submission_lock::store::memory_store"
  message := "Taking over expired in-memory lock"
  fields := [("resource_key", .captured key), ("previous", .text previous)]

/-- A new lease from now on, if the clock will ever show its end. -/
def grant (t : LeaseTable) (now : Moment) (id key : String) (kind : LeaseKind)
    (previous : Option String) : LeaseTable × Claim :=
  let expiry := now + kind.term.nanos
  if expiry < Moment.horizon then (⟨t.slots.put key ⟨id, expiry⟩⟩, .granted previous)
  else (t, .beyondHorizon previous)

/-- Asks for the lease on a key. Whoever holds it keeps it while it
runs, the same holder included. -/
def claim (t : LeaseTable) (now : Moment) (id key : String) (kind : LeaseKind) :
    LeaseTable × Claim :=
  match t.slots.find? key with
  | none => t.grant now id key kind none
  | some lease =>
    if lease.expired now then t.grant now id key kind (some lease.holder) else (t, .busy)

/-- Gives up the lease on a key, if it is the caller's, run out or not. -/
def release (t : LeaseTable) (id key : String) : LeaseTable × Bool :=
  match t.slots.find? key with
  | none => (t, false)
  | some lease => if lease.holder = id then (⟨t.slots.remove key⟩, true) else (t, false)

/-- Who holds the running lease on a key. -/
def holder? (t : LeaseTable) (now : Moment) (key : String) : Option String :=
  ((t.slots.find? key).filter fun l => !l.expired now).map Lease.holder

/-- How many leases are running. -/
def active (t : LeaseTable) (now : Moment) : Nat :=
  t.slots.entries.countP fun e => !e.2.expired now

end LeaseTable

end FormLease
