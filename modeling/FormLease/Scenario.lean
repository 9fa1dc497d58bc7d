import FormLease.Scene

/-!
# Scenarios

A scenario is a script for claimants at one table: who enters, calls,
leaves, when time passes, and what a claimant's backoff turns into. A
backoff may run further steps before it ends, and a bracket runs steps
as its protected work, so steps nest. `Result` is what comes of a step
and `Entry` one line of what could be observed while it ran.
-/

namespace FormLease.Scenario

mutual

/-- What a claimant's backoff turns into. -/
inductive Sleep where
  /-- It ends at once, and no time passes. -/
  | instant
  /-- Exactly the time asked for passes. -/
  | exact
  /-- The time asked for passes, rounded up to whole milliseconds. -/
  | tick
  /-- It is cut short, for this reason. -/
  | fail (text : String)
  /-- Other steps are run, and no time passes but what they let pass. -/
  | run (steps : List Step)

inductive Step where
  /-- A claimant enters, under the standard policy if none is given. -/
  | enter (name form : String) (instanceId : Option String) (user : String) (draws : List Nat)
      (policy : Option (UInt32 × Span)) (sleeps : List Sleep)
  | call (name : String) (errand : Errand)
  | bracket (name : String) (body : List Step)
  | adopt (name : String) (tries : UInt32) (firstBound : Span) (draws : List Nat)
  | inspect (name : String)
  | leave (name : String)
  | advance (passed : Span)
  /-- Somebody goes to the table: a claimant's name stands for its id,
  also after it has left; any other text is an id itself. -/
  | visit (errand : Errand) (who key : String) (kind : LeaseKind)
  | holder (key : String)
  | active

end

instance : Inhabited Sleep := ⟨.instant⟩

instance : Inhabited Step := ⟨.active⟩

mutual

/-- How many steps there are in a step, itself included. -/
def Step.size : Step → Nat
  | .enter _ _ _ _ _ _ sleeps => 1 + sleepsSize sleeps
  | .bracket _ body => 1 + stepsSize body
  | .call _ _ | .adopt _ _ _ _ | .inspect _ | .leave _ | .advance _ | .visit _ _ _ _ | .holder _
  | .active => 1

def stepsSize : List Step → Nat
  | [] => 0
  | step :: rest => step.size + stepsSize rest

def Sleep.size : Sleep → Nat
  | .run steps => stepsSize steps
  | .instant | .exact | .tick | .fail _ => 0

def sleepsSize : List Sleep → Nat
  | [] => 0
  | sleep :: rest => sleep.size + sleepsSize rest

end

inductive Result where
  | done
  /-- There is no claimant of that name, or it is busy. -/
  | noClaimant
  | fault (fault : LeaseFault)
  | inspected (claimant : Claimant)
  | call (outcome : Except LeaseFault Unit) (held : Bool)
  | bracket (outcome : Except LeaseFault (List Result)) (held : Bool)
  | answered (yes : Bool)
  /-- The clock has no room for the lease asked for. -/
  | overflow
  | holder (id : Option String)
  | active (count : Nat)

instance : Inhabited Result := ⟨.done⟩

inductive Entry where
  | asked (errand : Errand) (id key : String) (kind : LeaseKind) (answer : Except LeaseFault Bool)
  | slept (name : String) (delay : Span)
  /-- What came of a step that a backoff ran. -/
  | nested (result : Result)
  | span (errand : Errand) (fields : Journal.Fields)
  | record (record : Journal.Record)
  | sample (sample : Sample)

end FormLease.Scenario
