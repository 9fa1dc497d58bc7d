import FormLease.Claimant
import FormLease.LeaseTable

/-!
# Claimants at one table

Any number of claimants, by name, over one lease table and one clock.
What happens is a sequence of moves: a claimant begins a call, the table
or somebody in its place answers, a backoff ends, time passes. Moves of
different claimants interleave freely, and between any two of them the
scene is a plain value. `Scene.apply` is the only way it changes.

A bracket is an acquire and a release around some protected work; while
its claimant is `inside`, others move on.
-/

namespace FormLease

/-- What a claimant is busy with. -/
inductive Activity where
  | idle
  /-- It waits for an answer, perhaps on behalf of a bracket. -/
  | asking (call : Call) (bracket : Bool)
  /-- It waits for the end of a backoff. -/
  | sleeping (call : Call) (delay : Span) (bracket : Bool)
  /-- It does the protected work of a bracket. -/
  | inside

structure Seat where
  claimant : Claimant
  activity : Activity

structure Scene where
  now : Moment
  table : LeaseTable
  seats : Directory Seat

/-- An answer given in place of the table's. -/
abbrev Scripted := Option (Except LeaseFault Bool)

inductive Move where
  | enter (name : String) (claimant : Claimant)
  | start (name : String) (errand : Errand)
  /-- Begins the acquire of a bracket. -/
  | bracket (name : String)
  | answer (name : String) (scripted : Scripted)
  | wake (name : String) (result : Except String Unit)
  /-- Begins the release of a bracket. -/
  | conclude (name : String)
  | adopt (name : String) (policy : RetryPolicy) (draws : Nat → Draw)
  | leave (name : String)
  | advance (passed : Span)
  /-- Somebody without a seat goes to the table. -/
  | visit (errand : Errand) (id key : String) (kind : LeaseKind) (scripted : Scripted)

/-- What others can see of a move. -/
inductive Happening where
  | told (teller : Claimant) (event : Event)
  | tookOver (key previous : String)
  | asked (errand : Errand) (id key : String) (kind : LeaseKind) (answer : Except LeaseFault Bool)
  /-- A claim that the clock has no room for. -/
  | overflowed
  | ended (name : String) (outcome : Except LeaseFault Unit)

namespace Scene

def start : Scene := ⟨0, LeaseTable.empty, Directory.empty⟩

def takeover (key : String) : Option String → List Happening
  | some previous => [.tookOver key previous]
  | none => []

/-- One visit to the table, or to what answers in its place. The answer
is missing if the clock has no room for the new lease. -/
def consult (s : Scene) (errand : Errand) (id key : String) (kind : LeaseKind) :
    Scripted → Scene × List Happening × Option (Except LeaseFault Bool)
  | some answer => (s, [.asked errand id key kind answer], some answer)
  | none =>
    match errand with
    | .acquire =>
      match s.table.claim s.now id key kind with
      | (table, .granted previous) =>
        ({ s with table := table },
          takeover key previous ++ [.asked .acquire id key kind (.ok true)], some (.ok true))
      | (_, .busy) => (s, [.asked .acquire id key kind (.ok false)], some (.ok false))
      | (_, .beyondHorizon previous) => (s, takeover key previous ++ [.overflowed], none)
    | .release =>
      let (table, released) := s.table.release id key
      ({ s with table := table }, [.asked .release id key kind (.ok released)],
        some (.ok released))

/-- What a claimant is busy with after its turn in a call. A bracket
goes on inside after a successful acquire. -/
def activityAfter (errand : Errand) (bracket : Bool) : Progress → Activity
  | .asking call => .asking call bracket
  | .sleeping call delay => .sleeping call delay bracket
  | .ended (.ok ()) => if bracket && errand == .acquire then .inside else .idle
  | .ended (.error _) => .idle

def ending (name : String) : Progress → List Happening
  | .ended outcome => [.ended name outcome]
  | _ => []

/-- The scene after a claimant's turn in a call. -/
def settle (s : Scene) (name : String) (errand : Errand) (bracket : Bool) (turn : Turn) :
    Scene × List Happening :=
  ({ s with
      seats := s.seats.put name ⟨turn.claimant, activityAfter errand bracket turn.progress⟩ },
    turn.events.map (.told turn.claimant) ++ ending name turn.progress)

/-- The claimant of that name, if it is not busy. -/
def idle? (s : Scene) (name : String) : Option Claimant :=
  match s.seats.find? name with
  | some ⟨c, .idle⟩ => some c
  | _ => none

/-- The claimant of that name, if it does the protected work of a
bracket. -/
def inside? (s : Scene) (name : String) : Option Claimant :=
  match s.seats.find? name with
  | some ⟨c, .inside⟩ => some c
  | _ => none

/-- The claimant of that name with its call and whether that belongs to
a bracket, if it waits for an answer. -/
def asking? (s : Scene) (name : String) : Option (Claimant × Call × Bool) :=
  match s.seats.find? name with
  | some ⟨c, .asking call bracket⟩ => some (c, call, bracket)
  | _ => none

/-- The claimant of that name with its call and whether that belongs to
a bracket, if it waits for the end of a backoff. -/
def sleeping? (s : Scene) (name : String) : Option (Claimant × Call × Bool) :=
  match s.seats.find? name with
  | some ⟨c, .sleeping call _ bracket⟩ => some (c, call, bracket)
  | _ => none

/-- The scene after a move and what could be seen of it; nothing if the
move is not possible. -/
def apply (s : Scene) : Move → Option (Scene × List Happening)
  | .enter name c => some ({ s with seats := s.seats.put name ⟨c, .idle⟩ }, [])
  | .start name errand => do
    let c ← s.idle? name
    some (s.settle name errand false (c.begin errand))
  | .bracket name => do
    let c ← s.idle? name
    some (s.settle name .acquire true (c.begin .acquire))
  | .answer name scripted => do
    let (c, call, bracket) ← s.asking? name
    let (s, seen, answer) := s.consult call.errand c.id c.key.text c.kind scripted
    let answer ← answer
    let (s, told) := s.settle name call.errand bracket (c.answered call answer)
    some (s, seen ++ told)
  | .wake name result => do
    let (c, call, bracket) ← s.sleeping? name
    some (s.settle name call.errand bracket (c.woken call result))
  | .conclude name => do
    let c ← s.inside? name
    some (s.settle name .release true (c.begin .release))
  | .adopt name policy draws => do
    let c ← s.idle? name
    some ({ s with seats := s.seats.put name ⟨c.withPolicy policy draws, .idle⟩ }, [])
  | .leave name => do
    let c ← s.idle? name
    some ({ s with seats := s.seats.remove name }, c.leave.map (.told c))
  | .advance passed => some ({ s with now := s.now + passed.nanos }, [])
  | .visit errand id key kind scripted =>
    let (s, seen, _) := s.consult errand id key kind scripted
    some (s, seen)

end Scene

end FormLease
