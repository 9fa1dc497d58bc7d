import FormLease.Address.Url
import FormLease.Fault.Database
import FormLease.Journal.Record
import FormLease.Network

/-!
# Addresses of PostgreSQL servers

Which server an address names. Its parts must be texts, and its query
holds parameters, which are looked at in order: those that are numbers
or choices must be such, and those that nobody knows are passed over
with a warning.
-/

namespace FormLease.Postgres

open Address

/-- What an address says of the server. -/
structure Target where
  host : String := "localhost"
  port : Nat := 5432
  /-- The folder of a socket in the file system. -/
  folder : Option String := none
  deriving DecidableEq

namespace Target

/-- The part of the program that reads addresses. -/
def speaker : String := "sqlx_postgres::options::parse"

/-- Where the server is. A host that is a path is the folder of its
socket. -/
def endpoint (t : Target) : Endpoint :=
  let socketIn (folder : String) : Endpoint :=
    .socket (folder ++ "/.s.PGSQL." ++ toString t.port)
  match t.folder with
  | some folder => socketIn folder
  | none => if t.host.toList.head? = some '/' then socketIn t.host else .tcp t.host t.port

/-! ## Parameters -/

def tlsModes : List String := ["disable", "allow", "prefer", "require", "verify-ca", "verify-full"]

/-- Parameters that may say anything and do not matter here. -/
def isFree (name : String) : Bool :=
  ["sslrootcert", "ssl-root-cert", "ssl-ca", "sslcert", "ssl-cert", "sslkey", "ssl-key", "dbname",
    "user", "password", "application_name", "options"].contains name
    || (Text.afterLead? "options[".toList name.toList).isSome

def number (bits : Nat) (value : String) : Except DatabaseFault Nat :=
  (Text.readNatural bits value).mapError fun fault => .configuration fault.message

/-- The target with a parameter; nothing if nobody knows it. -/
def withParameter? (t : Target) (name value : String) : Option (Except DatabaseFault Target) :=
  match name with
  | "sslmode" | "ssl-mode" =>
    if tlsModes.contains (Text.asciiLower value) then some (.ok t)
    else some (.error (.parameter (.unknownTlsMode value)))
  | "statement-cache-capacity" => some ((number 64 value).map fun _ => t)
  | "port" => some ((number 16 value).map fun port => { t with port := port })
  | "host" =>
    if value.toList.head? = some '/' then some (.ok { t with folder := some value })
    else some (.ok { t with host := value })
  | "hostaddr" =>
    if (Ipv4.strict? value.toList).isSome || (Ipv6.read? value.toList).isSome then
      some (.ok { t with host := value })
    else some (.error (.configuration "invalid IP address syntax"))
  | _ => if isFree name then some (.ok t) else none

/-- What is said of a parameter that nobody knows. -/
def warning (name value : String) : Journal.Record :=
  ⟨.warn, speaker, "ignoring unrecognized connect parameter",
    [("key", .text name), ("value", .text value)]⟩

/-- Looks at parameters until one is at fault, and gives the warnings up
to there. -/
def withParameters (t : Target) :
    List (String × String) → Except DatabaseFault Target × List Journal.Record
  | [] => (.ok t, [])
  | (name, value) :: rest =>
    match t.withParameter? name value with
    | some (.ok t) => withParameters t rest
    | some (.error fault) => (.error fault, [])
    | none =>
      let (result, warnings) := withParameters t rest
      (result, warning name value :: warnings)

/-! ## Addresses -/

/-- A part of an address, which must be the encoding of a text. -/
def decodedPart (s : List Char) : Except DatabaseFault String :=
  (decoded s).mapError fun broken => .configuration broken.message

/-- The target with the host of an address, if it has one. -/
def withHost (t : Target) (host : Option String) : Except DatabaseFault Target :=
  match host with
  | none => .ok t
  | some host =>
    if (percentBytes host.toList).head? = some 0x2f then
      (decodedPart host.toList).map fun folder => { t with folder := some folder }
    else .ok { t with host := host }

/-- What the parts of an address before its query say. -/
def ofPlace (u : Url) : Except DatabaseFault Target := do
  let t ← withHost { port := u.port.getD 5432 } u.host
  let _ ← decodedPart u.user
  let _ ← decodedPart (u.password.getD [])
  let _ ← decodedPart (u.path.dropWhile (· = '/'))
  return t

/-- The server that an address names, and the warnings about it. -/
def ofAddress (address : String) : Except DatabaseFault Target × List Journal.Record :=
  match Url.read address with
  | .error fault => (.error (.configuration fault.message), [])
  | .ok u =>
    match ofPlace u with
    | .error fault => (.error fault, [])
    | .ok t => t.withParameters u.queryPairs

end Target

end FormLease.Postgres
