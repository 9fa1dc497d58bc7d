import FormLease.Fault.Database

/-!
# Talking to a PostgreSQL server

The statements that a lease store has executed and what it makes of the
replies, in a conversation in which the replies still to come are known.
-/

namespace FormLease.Postgres

/-- A value for a place in a statement. -/
inductive Bind where
  | text (s : String)
  /-- A binary64 magnitude. -/
  | number (units : Nat)
  deriving DecidableEq

structure Statement where
  sql : String
  binds : List Bind
  deriving DecidableEq

inductive Reply where
  /-- The statement was executed, and so many rows were affected. -/
  | rows (count : Nat)
  /-- One row: the holder, the kind of lease, and when it runs out, in
  microseconds since 1970. A row of another table, whose columns do not
  decode to these, is out of scope. -/
  | row (holder kind : String) (expiryMicros : Int)
  | error (code message : String)
  deriving DecidableEq

namespace Reply

/-- How many rows a statement affected. -/
def affected? : Reply → Except DatabaseFault Nat
  | rows count => .ok count
  | row _ _ _ => .ok 1
  | error code message => .error (.reported code message)

end Reply

structure Exchange where
  /-- The code and message with which the server refuses a connection. -/
  refusal : Option (String × String)
  /-- Everything executed so far. -/
  sent : List Statement
  /-- The replies still to come. -/
  replies : List Reply

namespace Exchange

def start (replies : List Reply) : Exchange := ⟨none, [], replies⟩

/-- A connection is let in or refused. -/
def letIn (e : Exchange) : Except DatabaseFault Unit :=
  match e.refusal with
  | some (code, message) => .error (.reported code message)
  | none => .ok ()

/-- Has a statement executed and takes the reply. A server without a
reply has hung up. -/
def execute (s : Statement) (e : Exchange) : Except DatabaseFault Reply × Exchange :=
  match e.replies with
  | [] => (.error (.link "unexpected end of file"), { e with sent := e.sent ++ [s] })
  | r :: rest => (.ok r, { e with sent := e.sent ++ [s], replies := rest })

end Exchange

end FormLease.Postgres
