import FormLease.Fault.Redis
import FormLease.Text.Digits

/-!
# Talking to a Redis server

The commands that a lease store sends and what it makes of the replies.
An `Exchange` is a conversation in which the replies still to come are
known; commands and replies alternate.
-/

namespace FormLease.Redis

/-- Removes a key if it still has the holder's id as its value. The
server runs it as one step, so nobody else's lease is removed. -/
def releaseScript : String :=
  "if redis.call(\"get\", KEYS[1]) == ARGV[1] then return redis.call(\"del\", KEYS[1]) "
    ++ "else return 0 end"

inductive Command where
  | ping
  /-- Sets a key that is not set yet, for so many milliseconds. -/
  | setIfAbsent (key value : String) (millis : Nat)
  /-- Runs the release script for a key and a holder. -/
  | runRelease (key holder : String)
  /-- Gives the server the release script. -/
  | loadRelease
  deriving DecidableEq

/-- The words of a command; `script` is the name under which the server
knows the release script. -/
def Command.words (script : String) : Command → List String
  | ping => ["PING"]
  | setIfAbsent key value millis => ["SET", key, value, "NX", "PX", toString millis]
  | runRelease key holder => ["EVALSHA", script, "1", key, holder]
  | loadRelease => ["SCRIPT", "LOAD", releaseScript]

inductive Reply where
  | nil
  | status (s : String)
  | bulk (s : String)
  | int (n : Int)
  | error (code text : String)
  deriving DecidableEq

namespace Reply

/-- How messages show a reply of the wrong shape. -/
def shown : Reply → String
  | nil => "nil"
  | status "OK" => "ok"
  | status s => "simple-string(" ++ Text.quoted s ++ ")"
  | bulk s => "bulk-string('" ++ Text.quoted s ++ "')"
  | int n => "int(" ++ toString n ++ ")"
  | error code text => (RedisFault.replied code text).message

/-- A number of 32 bits as the server counts: longer ones wrap around. -/
def wrapped (n : Int) : Int := n.bmod (1 <<< 32)

/-- The reply as a number. -/
def number? (r : Reply) : Except RedisFault Int :=
  let unreadable (s : String) : Except RedisFault Int :=
    match Text.integer? 32 s with
    | some n => .ok n
    | none => .error (.incompatible "Could not convert from string." r.shown)
  match r with
  | int n => .ok (wrapped n)
  | bulk s => unreadable s
  | status "OK" | nil =>
    .error (.incompatible "Response type not convertible to numeric." r.shown)
  | status s => unreadable s
  | error code text => .error (.replied code text)

/-- Whether a key was set: anything but nil says so. -/
def wasSet? : Reply → Except RedisFault Bool
  | nil => .ok false
  | status _ | bulk _ | int _ => .ok true
  | error code text => .error (.replied code text)

/-- Whether a key was removed. -/
def wasRemoved? (r : Reply) : Except RedisFault Bool := r.number?.map fun n => 0 < n

/-- Whether the server is well: it is if it says anything. -/
def isWell? (r : Reply) : Except RedisFault Unit :=
  match r with
  | nil => .error (.incompatible "Response type not string compatible." r.shown)
  | status _ | bulk _ | int _ => .ok ()
  | error code text => .error (.replied code text)

end Reply

structure Exchange where
  /-- Everything sent so far. -/
  sent : List Command
  /-- The replies still to come. -/
  replies : List Reply

namespace Exchange

def start (replies : List Reply) : Exchange := ⟨[], replies⟩

/-- Sends a command and takes the reply. A server without a reply has
hung up. -/
def send (c : Command) (e : Exchange) : Except RedisFault Reply × Exchange :=
  match e.replies with
  | [] => (.error (.link "terminated"), { e with sent := e.sent ++ [c] })
  | r :: rest => (.ok r, ⟨e.sent ++ [c], rest⟩)

/-- Runs the release script, which the server may have to be given
first. -/
def sendRelease (key holder : String) (e : Exchange) : Except RedisFault Reply × Exchange :=
  let run := Command.runRelease key holder
  match e.send run with
  | (.ok (.error "NOSCRIPT" _), e) =>
    match e.send .loadRelease with
    | (.ok (.error code text), e) => (.error (.replied code text), e)
    | (.ok _, e) => e.send run
    | (.error fault, e) => (.error fault, e)
  | other => other

end Exchange

end FormLease.Redis
