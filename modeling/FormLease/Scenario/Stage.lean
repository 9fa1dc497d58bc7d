import FormLease.Scenario

/-!
# Playing scenarios

A `Stage` is a scene together with the scripts that the scenario brings:
answers given in the table's place, and what each claimant's backoffs
turn into. Both are used up one by one, and when they are, the table
answers for itself and backoffs end at once. Every change of the scene
is a move.

Steps run steps only through a call that is in progress, and each such
call is a step of its own, so the number of steps in the scenario bounds
how deep they nest.
-/

namespace FormLease.Scenario

structure Stage where
  scene : Scene
  acquireScript : List Scripted
  releaseScript : List Scripted
  sleeps : Directory (List Sleep)
  /-- The ids of all claimants that ever entered. -/
  ids : Directory String
  /-- Whether log records are observed. -/
  logs : Bool
  /-- Whether metrics are observed. -/
  metrics : Bool
  /-- What was observed since the trace was last taken, newest first. -/
  trace : List Entry

abbrev Play := StateM Stage

namespace Stage

/-- The id that a claimant gets in a scenario. -/
def idFor (name : String) : String := "<" ++ name ++ ">"

def ready (acquireScript releaseScript : List Scripted) (logs metrics : Bool) : Stage where
  scene := .start
  acquireScript := acquireScript
  releaseScript := releaseScript
  sleeps := .empty
  ids := .empty
  logs := logs
  metrics := metrics
  trace := []

/-- What is observed of an event, as far as anybody looks. -/
def entriesOfEvent (st : Stage) (teller : Claimant) : Event → List Entry
  | .entered errand => if st.logs then [.span errand teller.spanFields] else []
  | .note note => if st.logs then [.record note.record] else []
  | .measure measure => if st.metrics then measure.samples.map .sample else []

def entries (st : Stage) : Happening → List Entry
  | .told teller event => st.entriesOfEvent teller event
  | .tookOver key previous =>
    if st.logs then [.record (LeaseTable.takeoverRecord key previous)] else []
  | .asked errand id key kind answer => [.asked errand id key kind answer]
  | .overflowed | .ended _ _ => []

end Stage

def observe (entry : Entry) : Play Unit :=
  modify fun st => { st with trace := entry :: st.trace }

/-- Makes a move, if it is possible. -/
def act (move : Move) : Play (Option (List Happening)) := fun st =>
  match st.scene.apply move with
  | none => (none, st)
  | some (scene, seen) =>
    (some seen,
      { st with scene := scene, trace := (seen.flatMap st.entries).reverse ++ st.trace })

/-- The next answer of the script for such a call. -/
def takeAnswer (errand : Errand) : Play Scripted := fun st =>
  match errand with
  | .acquire => (st.acquireScript.head?.join, { st with acquireScript := st.acquireScript.tail })
  | .release => (st.releaseScript.head?.join, { st with releaseScript := st.releaseScript.tail })

/-- What the next backoff of a claimant turns into. -/
def takeSleep (name : String) : Play Sleep := fun st =>
  match st.sleeps.find? name with
  | some (sleep :: rest) => (sleep, { st with sleeps := st.sleeps.put name rest })
  | _ => (.instant, st)

/-- The span rounded up to whole milliseconds. -/
def wholeMillis (s : Span) : Span := Span.ofMillis ((s.nanos + 999999) / 1000000)

/-- Carries out a backoff; `inner` runs the steps of one that has any. -/
def sleep (inner : Step → Play Result) (name : String) (delay : Span) :
    Play (Except String Unit) := do
  observe (.slept name delay)
  match ← takeSleep name with
  | .instant => pure (.ok ())
  | .exact =>
    let _ ← act (.advance delay)
    pure (.ok ())
  | .tick =>
    let _ ← act (.advance (wholeMillis delay))
    pure (.ok ())
  | .fail text => pure (.error text)
  | .run steps =>
    for step in steps do
      observe (.nested (← inner step))
    pure (.ok ())

/-- How a call ended, if it did so in the move seen. -/
def outcome? (seen : List Happening) : Option (Except LeaseFault Unit) :=
  seen.findSome? fun
    | .ended _ outcome => some outcome
    | _ => none

/-- The next move of the call that a claimant is in. -/
def moveOn (inner : Step → Play Result) (name : String) : Play (Option (List Happening)) := do
  match (← get).scene.seats.find? name with
  | some ⟨_, .asking call _⟩ => act (.answer name (← takeAnswer call.errand))
  | some ⟨_, .sleeping _ delay _⟩ => act (.wake name (← sleep inner name delay))
  | _ => pure none

/-- Sees a claimant's call through to its end, in at most so many moves.
There is no outcome if the clock has no room for the lease. -/
def seeThrough (inner : Step → Play Result) (name : String) :
    (moves : Nat) → Play (Option (Except LeaseFault Unit))
  | 0 => pure none
  | moves + 1 => do
    match ← moveOn inner name with
    | none => pure none
    | some seen =>
      match outcome? seen with
      | some outcome => pure (some outcome)
      | none => seeThrough inner name moves

/-- How many moves a call of a claimant takes at most: an answer and an
awakening for each attempt. -/
def callMoves (c : Claimant) : Nat := 2 * c.policy.tries

/-- Whether a claimant counts as holding. -/
def heldNow (name : String) : Play Bool := do
  return ((← get).scene.seats.find? name).elim false fun seat => seat.claimant.held

/-- A claimant enters, unless its key or its policy is refused. -/
def enter (name : String) (key : Except LeaseFault ResourceKey) (user : String) (draws : List Nat)
    (policy : Option (UInt32 × Span)) (sleeps : List Sleep) : Play Result := do
  let entering : Except LeaseFault Claimant := do
    let fresh := Claimant.create (← key) (Stage.idFor name) user (Draw.ofList draws)
    match policy with
    | none => pure fresh
    | some (tries, firstBound) =>
      return fresh.withPolicy (← RetryPolicy.ofParts tries firstBound) (Draw.ofList draws)
  match entering with
  | .error fault => pure (.fault fault)
  | .ok claimant =>
    let _ ← act (.enter name claimant)
    modify fun st =>
      { st with sleeps := st.sleeps.put name sleeps, ids := st.ids.put name claimant.id }
    pure (.inspected claimant)

/-- Somebody goes to the table. -/
def visit (errand : Errand) (who key : String) (kind : LeaseKind) : Play Result := do
  let id := ((← get).ids.find? who).getD who
  let seen := (← act (.visit errand id key kind (← takeAnswer errand))).getD []
  let answer : Option (Except LeaseFault Bool) := seen.findSome? fun
    | .asked _ _ _ _ answer => some answer
    | _ => none
  match answer with
  | some (.ok yes) => pure (.answered yes)
  | some (.error fault) => pure (.fault fault)
  | none => pure .overflow

/-- Runs one step; `inner` runs the steps that it contains. -/
def runStep (inner : Step → Play Result) (step : Step) : Play Result := do
  let scene := (← get).scene
  match step with
  | .enter name form instanceId user draws policy sleeps =>
    enter name (ResourceKey.ofOptional form instanceId) user draws policy sleeps
  | .call name errand =>
    match scene.idle? name with
    | none => pure .noClaimant
    | some c =>
      let _ ← act (.start name errand)
      match ← seeThrough inner name (callMoves c) with
      | some outcome => pure (.call outcome (← heldNow name))
      | none => pure .overflow
  | .bracket name body =>
    match scene.idle? name with
    | none => pure .noClaimant
    | some c =>
      let _ ← act (.bracket name)
      match ← seeThrough inner name (callMoves c) with
      | some (.ok ()) =>
        let results ← body.mapM inner
        let _ ← act (.conclude name)
        let _ ← seeThrough inner name (callMoves c)
        pure (.bracket (.ok results) (← heldNow name))
      | some (.error fault) => pure (.bracket (.error fault) (← heldNow name))
      | none => pure .overflow
  | .adopt name tries firstBound draws =>
    match scene.idle? name with
    | none => pure .noClaimant
    | some c =>
      match RetryPolicy.ofParts tries firstBound with
      | .error fault => pure (.fault fault)
      | .ok policy =>
        let _ ← act (.adopt name policy (Draw.ofList draws))
        pure (.inspected (c.withPolicy policy (Draw.ofList draws)))
  | .inspect name =>
    match scene.idle? name with
    | none => pure .noClaimant
    | some c => pure (.inspected c)
  | .leave name =>
    match scene.idle? name with
    | none => pure .noClaimant
    | some _ =>
      let _ ← act (.leave name)
      pure .done
  | .advance passed =>
    let _ ← act (.advance passed)
    pure .done
  | .visit errand who key kind => visit errand who key kind
  | .holder key => pure (.holder (scene.table.holder? scene.now key))
  | .active => pure (.active (scene.table.active scene.now))

/-- Runs a step that contains others to the given depth. -/
def runNested : (depth : Nat) → Step → Play Result
  | 0 => fun _ => pure .noClaimant
  | depth + 1 => runStep (runNested depth)

/-- A step's result, what was observed while it ran, and the clock after
it. -/
structure Report where
  result : Result
  trace : List Entry
  now : Moment

def runReported (depth : Nat) (step : Step) : Play Report := do
  let result ← runNested depth step
  let st ← get
  set { st with trace := [] }
  pure ⟨result, st.trace.reverse, st.scene.now⟩

/-- Plays a scenario. -/
def play (stage : Stage) (steps : List Step) : List Report :=
  ((steps.mapM (runReported (stepsSize steps))).run stage).1

end FormLease.Scenario
