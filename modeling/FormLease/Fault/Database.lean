import FormLease.Text.Quoted

/-!
# Database faults

What can go wrong between a lease store and its database: the pool, the
conversation with the server, the values exchanged, and what the server
itself reports. A cause that comes from elsewhere is known by its text.
-/

namespace FormLease

inductive DatabaseFault where
  | poolTimedOut
  | poolClosed
  | rowNotFound
  | workerCrashed
  | beginFailed
  /-- A transaction was begun in its own way inside another. -/
  | nestedBegin
  | protocol (detail : String)
  | invalidArgument (detail : String)
  | columnNotFound (name : String)
  | typeNotFound (name : String)
  | columnIndex (index len : Nat)
  | configuration (cause : String)
  /-- A way to use TLS that there is not. -/
  | unknownTlsMode (name : String)
  /-- A parameter of an address is at fault. -/
  | parameter (fault : DatabaseFault)
  | tls (cause : String)
  | encode (cause : String)
  | decode (cause : String)
  /-- A column of a row, by its place or its quoted name, does not decode. -/
  | columnDecode (column cause : String)
  /-- A value or a fault of a driver has no counterpart among those that all
  drivers share. -/
  | driverMapping (cause : String)
  /-- A migration of the schema went wrong. -/
  | migration (cause : String)
  /-- The connection broke or could not be made. -/
  | link (cause : String)
  /-- The server answered a statement with an error. -/
  | reported (code message : String)
  deriving DecidableEq

namespace DatabaseFault

def unknownMode (name : String) : String :=
  "unknown value " ++ Text.quoted name ++ " for \x60ssl_mode\x60"

def message : DatabaseFault → String
  | poolTimedOut => "pool timed out while waiting for an open connection"
  | poolClosed => "attempted to acquire a connection on a closed pool"
  | rowNotFound =>
    "no rows returned by a query that expected to return at least one row"
  | workerCrashed => "attempted to communicate with a crashed background worker"
  | beginFailed => "got unexpected connection status after attempting to begin transaction"
  | nestedBegin => "attempted to call begin_with at non-zero transaction depth"
  | protocol t => "encountered unexpected or invalid data: " ++ t
  | invalidArgument t => t
  | columnNotFound t => "no column found for name: " ++ t
  | typeNotFound t => "type named " ++ t ++ " not found"
  | columnIndex index len =>
    "column index out of bounds: the len is " ++ toString len
      ++ ", but the index is " ++ toString index
  | configuration t => "error with configuration: " ++ t
  | unknownTlsMode name => "error with configuration: " ++ unknownMode name
  | parameter f => "error with configuration: " ++ f.message
  | tls t => "error occurred while attempting to establish a TLS connection: " ++ t
  | encode t => "error occurred while encoding a value: " ++ t
  | decode t => "error occurred while decoding: " ++ t
  | columnDecode column t => "error occurred while decoding column " ++ column ++ ": " ++ t
  | driverMapping t => "error in Any driver mapping: " ++ t
  | migration t => t
  | link t => "error communicating with database: " ++ t
  | reported _ t => "error returned from database: " ++ t

def cause? : DatabaseFault → Option String
  | configuration t | tls t | encode t | decode t | columnDecode _ t | driverMapping t
  | migration t | link t | reported _ t => some t
  | unknownTlsMode name => some (unknownMode name)
  | parameter f => some f.message
  | poolTimedOut | poolClosed | rowNotFound | workerCrashed | beginFailed | nestedBegin
  | protocol _ | invalidArgument _ | columnNotFound _ | typeNotFound _ | columnIndex _ _ => none

def depth : DatabaseFault → Nat
  | parameter f => f.depth + 1
  | f => f.cause?.elim 0 fun _ => 1

end DatabaseFault

end FormLease
