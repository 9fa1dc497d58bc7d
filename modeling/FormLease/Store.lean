import FormLease.LeaseTable
import FormLease.Postgres.Store
import FormLease.Redis.Store

/-!
# Stores

Where the claimants of a process keep their leases: a table of its own,
or a server that it shares with others. A fault of a server is a fault of
the store, and never an answer.
-/

namespace FormLease

inductive Store where
  | memory (table : LeaseTable)
  | redis (store : Redis.Store)
  | postgres (store : Postgres.Store)

namespace Store

/-- An attempt at a table. A lease that would run out beyond what the
clock can show is not given. -/
def askTable (now : Moment) (errand : Errand) (id key : String) (kind : LeaseKind) (t : LeaseTable) :
    Bool × List Journal.Entry × LeaseTable :=
  match errand with
  | .acquire =>
    match t.claim now id key kind with
    | (t, .granted previous) =>
      (true, previous.toList.map fun p => .record (LeaseTable.takeoverRecord key p), t)
    | (t, .busy) => (false, [], t)
    | (t, .beyondHorizon _) => (false, [], t)
  | .release =>
    let (t, released) := t.release id key
    (released, [], t)

/-- An attempt, with what it tells the log. -/
def ask (now : Moment) (errand : Errand) (id key : String) (kind : LeaseKind) :
    Store → Except LeaseFault Bool × List Journal.Entry × Store
  | memory t =>
    let (answer, entries, t) := askTable now errand id key kind t
    (.ok answer, entries, memory t)
  | redis s =>
    let (answer, entries, s) := s.ask errand id key kind
    (answer.mapError .redis, entries, redis s)
  | postgres s =>
    let (answer, entries, s) := s.ask errand id key kind
    (answer.mapError .database, entries, postgres s)

/-- What a Redis server was sent, if that is the store. -/
def redisSent : Store → List Redis.Command
  | redis s => s.exchange.sent
  | memory _ | postgres _ => []

/-- What a PostgreSQL server was sent, if that is the store. -/
def postgresSent : Store → List Postgres.Statement
  | postgres s => s.exchange.sent
  | memory _ | redis _ => []

end Store

end FormLease
