import FormLease.Claimant.Event
import FormLease.Journal.Line
import FormLease.LeaseKind
import FormLease.Redis.Exchange

/-!
# Leases at a Redis server

A lease is a key whose value is the holder's id. The server lets it run
out by itself; it is set only if it is not there, and removed only by a
script that checks whose it is.
-/

namespace FormLease.Redis

structure Store where
  /-- What stands before every key. -/
  lead : String
  exchange : Exchange

namespace Store

def defaultLead : String := "lock:"

/-- The part of the program that speaks for this store. -/
def target : String := "submission_lock::store::redis_store"

/-- The milliseconds that a lease runs: at least one, and at most what a
word of 64 bits holds. -/
def runMillis (kind : LeaseKind) : Nat := max 1 (min kind.term.millis ((1 <<< 64) - 1))

/-- What a step tells the log: that it was entered, what came of it if it
was not a fault, and that it is over. -/
def told (scope : Journal.Scope) (message field : String) (answer : Except RedisFault Bool) :
    List Journal.Entry :=
  let record : List Journal.Entry :=
    match answer with
    | .ok yes => [.record ⟨.debug, target, message, [(field, .flag yes)]⟩]
    | .error _ => []
  .opened scope :: record ++ [.closed]

/-- Claims the lease on a key. -/
def claim (id key : String) (kind : LeaseKind) (s : Store) :
    Except RedisFault Bool × List Journal.Entry × Store :=
  let (reply, exchange) := s.exchange.send (.setIfAbsent (s.lead ++ key) id (runMillis kind))
  let answer := reply.bind Reply.wasSet?
  let scope : Journal.Scope :=
    ⟨"try_acquire", target,
      [("lock_id", .captured id), ("resource_key", .captured key), ("lock_type", .captured kind.name)]⟩
  (answer, told scope "Redis lock attempt" "acquired" answer, { s with exchange := exchange })

/-- Gives up the lease on a key. -/
def release (id key : String) (s : Store) : Except RedisFault Bool × List Journal.Entry × Store :=
  let (reply, exchange) := s.exchange.sendRelease (s.lead ++ key) id
  let answer := reply.bind Reply.wasRemoved?
  let scope : Journal.Scope :=
    ⟨"try_release", target, [("lock_id", .captured id), ("resource_key", .captured key)]⟩
  (answer, told scope "Redis lock release attempt" "released" answer, { s with exchange := exchange })

def ask (errand : Errand) (id key : String) (kind : LeaseKind) (s : Store) :
    Except RedisFault Bool × List Journal.Entry × Store :=
  match errand with
  | .acquire => s.claim id key kind
  | .release => s.release id key

/-- Asks the server whether it is well. -/
def health (s : Store) : Except RedisFault Unit × Store :=
  let (reply, exchange) := s.exchange.send .ping
  (reply.bind Reply.isWell?, { s with exchange := exchange })

end Store

end FormLease.Redis
