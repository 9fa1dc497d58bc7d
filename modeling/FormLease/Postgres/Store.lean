import FormLease.Address.Redacted
import FormLease.Claimant.Event
import FormLease.Fault
import FormLease.Journal.Line
import FormLease.LeaseKind
import FormLease.Postgres.Exchange
import FormLease.Postgres.Target

/-!
# Leases at a PostgreSQL server

A lease is a row of one table. One statement claims it: it inserts the
row, or takes over a row that has run out, or affects nothing. The
server's clock alone decides what has run out.
-/

namespace FormLease.Postgres

/-- Who holds a lease, as the table says. -/
structure Holder where
  id : String
  kind : String
  expiryMicros : Int
  deriving DecidableEq

structure Store where
  exchange : Exchange

namespace Store

/-- The part of the program that speaks for this store. -/
def target : String := "submission_lock::store::pg_store"

/-- The part that speaks for the connections it uses. -/
def poolTarget : String := "submission_shared::database"

/-! ## Statements -/

def pingSql : String := "SELECT 1"

def schemaSql : String :=
  "CREATE TABLE IF NOT EXISTS submission_locks ( lock_key TEXT PRIMARY KEY, "
    ++ "lock_id TEXT NOT NULL, lock_type TEXT NOT NULL, expires_at TIMESTAMPTZ NOT NULL, "
    ++ "acquired_at TIMESTAMPTZ NOT NULL DEFAULT NOW() )"

def claimSql : String :=
  "INSERT INTO submission_locks (lock_key, lock_id, lock_type, expires_at) "
    ++ "VALUES ($1, $2, $3, NOW() + make_interval(secs => $4)) "
    ++ "ON CONFLICT (lock_key) DO UPDATE SET lock_id = EXCLUDED.lock_id, "
    ++ "lock_type = EXCLUDED.lock_type, expires_at = EXCLUDED.expires_at, "
    ++ "acquired_at = NOW() WHERE submission_locks.expires_at < NOW()"

def releaseSql : String := "DELETE FROM submission_locks WHERE lock_key = $1 AND lock_id = $2"

def holderSql : String :=
  "SELECT lock_id, lock_type, expires_at FROM submission_locks "
    ++ "WHERE lock_key = $1 AND expires_at >= NOW()"

def purgeSql : String := "DELETE FROM submission_locks WHERE expires_at < NOW()"

/-! ## Claims -/

/-- Has a statement executed and counts the rows it affected. -/
def count (s : Statement) (store : Store) : Except DatabaseFault Nat × Store :=
  let (reply, exchange) := store.exchange.execute s
  (reply.bind Reply.affected?, ⟨exchange⟩)

/-- What a step tells the log: that it was entered, what came of it if it
was not a fault, and that it is over. -/
def told (scope : Journal.Scope) (message field : String) (answer : Except DatabaseFault Bool) :
    List Journal.Entry :=
  let record : List Journal.Entry :=
    match answer with
    | .ok yes => [.record ⟨.debug, target, message, [(field, .flag yes)]⟩]
    | .error _ => []
  .opened scope :: record ++ [.closed]

/-- Claims the lease on a key. -/
def claim (id key : String) (kind : LeaseKind) (s : Store) :
    Except DatabaseFault Bool × List Journal.Entry × Store :=
  let (rows, s) :=
    s.count ⟨claimSql, [.text key, .text id, .text kind.name, .number kind.term.binarySeconds]⟩
  let answer := rows.map fun n => decide (0 < n)
  let scope : Journal.Scope :=
    ⟨"try_acquire", target,
      [("lock_id", .captured id), ("resource_key", .captured key), ("lock_type", .captured kind.name)]⟩
  (answer, told scope "Database lock attempt" "acquired" answer, s)

/-- Gives up the lease on a key. -/
def release (id key : String) (s : Store) : Except DatabaseFault Bool × List Journal.Entry × Store :=
  let (rows, s) := s.count ⟨releaseSql, [.text key, .text id]⟩
  let answer := rows.map fun n => decide (0 < n)
  let scope : Journal.Scope :=
    ⟨"try_release", target, [("lock_id", .captured id), ("resource_key", .captured key)]⟩
  (answer, told scope "Database lock release attempt" "released" answer, s)

def ask (errand : Errand) (id key : String) (kind : LeaseKind) (s : Store) :
    Except DatabaseFault Bool × List Journal.Entry × Store :=
  match errand with
  | .acquire => s.claim id key kind
  | .release => s.release id key

/-- Who holds the running lease on a key. -/
def holder? (key : String) (s : Store) : Except DatabaseFault (Option Holder) × Store :=
  let (reply, exchange) := s.exchange.execute ⟨holderSql, [.text key]⟩
  let holder := reply.bind fun
    | .row id kind micros => .ok (some ⟨id, kind, micros⟩)
    | .rows _ => .ok none
    | .error code message => .error (.reported code message)
  (holder, ⟨exchange⟩)

/-- Removes every row that has run out and counts them. -/
def purge (s : Store) : Except DatabaseFault Nat × Store := s.count ⟨purgeSql, []⟩

/-! ## Connecting -/

/-- Makes sure that the table is there. -/
def ensureSchema (s : Store) : Except DatabaseFault Unit × List Journal.Entry × Store :=
  let (rows, s) := s.count ⟨schemaSql, []⟩
  let record : List Journal.Entry :=
    match rows with
    | .ok _ => [.record ⟨.info, target, "submission_locks table ready", []⟩]
    | .error _ => []
  (rows.map fun _ => (), .opened ⟨"ensure_schema", target, []⟩ :: record ++ [.closed], s)

/-- A connection is made, if the server can be reached and lets the caller
in. -/
def reach (network : Network) (server : Target) (s : Store) : Except DatabaseFault Unit :=
  (network.obstacle? server.endpoint).elim s.exchange.letIn fun reason => .error (.link reason)

/-- Connects to a server and tries it out. -/
def openPool (network : Network) (address : String) (maxConnections : Nat) (s : Store) :
    Except DatabaseFault Unit × List Journal.Entry × Store :=
  let scope : Journal.Scope :=
    ⟨"connect_pool", poolTarget, [("url", .text (Address.redacted address))]⟩
  let (server, warnings) := Target.ofAddress address
  let opening : List Journal.Entry :=
    .opened scope
      :: .record ⟨.info, poolTarget, "Connecting to lock database...",
        [("max_connections", .number maxConnections)]⟩
      :: warnings.map .record
  match server.bind (s.reach network) with
  | .error fault => (.error fault, opening ++ [.closed], s)
  | .ok () =>
    match s.count ⟨pingSql, []⟩ with
    | (.error fault, s) => (.error fault, opening ++ [.closed], s)
    | (.ok _, s) =>
      (.ok (), opening ++ [.record ⟨.info, poolTarget, "Lock database ready", []⟩, .closed], s)

/-- Connects to a server and makes sure that the table is there. What
fails before the table is touched is a fault of the service. -/
def connect (network : Network) (address : String) (maxConnections : Nat) (s : Store) :
    Except LeaseFault Unit × List Journal.Entry × Store :=
  match s.openPool network address maxConnections with
  | (.error fault, entries, s) => (.error (.service (.database fault)), entries, s)
  | (.ok (), entries, s) =>
    let (result, more, s) := s.ensureSchema
    (result.mapError .database, entries ++ more, s)

end Store

end FormLease.Postgres
