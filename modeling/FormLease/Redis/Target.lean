import FormLease.Address.Url
import FormLease.Fault.Redis
import FormLease.Network

/-!
# Addresses of Redis servers

Which server an address names: a host and a port or a socket in the file
system, the database there, and who logs in.
-/

namespace FormLease.Redis

structure Target where
  endpoint : Endpoint
  database : Int
  user : Option String
  password : Option String
  deriving DecidableEq

namespace Target

open Address

def refuse {α : Type} (text : String) (detail : Option String := none) : Except RedisFault α :=
  .error (.raised .clientConfig text detail)

def defaultPort : Nat := 6379

def database? (s : String) : Except RedisFault Int :=
  (Text.integer? 64 s).elim (refuse "Invalid database number") .ok

/-- A version of the protocol may be asked for; there are two. -/
def checkProtocol (u : Url) : Except RedisFault Unit :=
  match u.queryValue? "protocol" with
  | none => .ok ()
  | some version =>
    if ["2", "resp2", "3", "resp3"].contains version then .ok ()
    else refuse "Invalid protocol version" version

/-- A path without the slashes around it. -/
def bare (path : List Char) : List Char :=
  ((path.dropWhile (· = '/')).reverse.dropWhile (· = '/')).reverse

def ofHost (u : Url) : Except RedisFault Target := do
  let some host := u.host | refuse "Missing hostname"
  if host = "0.0.0.0" || host = "::" then
    refuse "Cannot connect to a wildcard address (0.0.0.0 or ::)"
  if u.scheme = "rediss" || u.scheme = "valkeys" then
    refuse "can't connect with TLS, the feature is not enabled"
  let path := String.ofList (bare u.path)
  let database ← if path = "" then pure 0 else database? path
  let user ←
    if u.user = [] then pure none
    else
      match percentText? u.user with
      | some user => pure (some user)
      | none => refuse "Username is not valid UTF-8 string"
  let password ←
    match u.password with
    | none => pure none
    | some password =>
      match percentText? password with
      | some password => pure (some password)
      | none => refuse "Password is not valid UTF-8 string"
  checkProtocol u
  return ⟨.tcp host (u.port.getD defaultPort), database, user, password⟩

/-- The bytes of a path in the file system. One that ends in the name of
a drive gets a slash after it. -/
def pathBytes (path : List Char) : List UInt8 :=
  let bytes := percentBytes path
  let isDrive :=
    match bytes.reverse with
    | mark :: letter :: _ :: _ =>
      (mark = 0x3a || mark = 0x7c) && (Char.ofNat letter.toNat).isAlpha
    | _ => false
  if isDrive then bytes ++ [0x2f] else bytes

def ofSocket (u : Url) : Except RedisFault Target := do
  if u.path.head? ≠ some '/' || !(u.host.isNone || u.host = some "localhost") then
    refuse "Missing path"
  let database ← (u.queryValue? "db").elim (pure 0) database?
  checkProtocol u
  return ⟨.socket (Text.ofUtf8Lenient (pathBytes u.path)), database, u.queryValue? "user",
    u.queryValue? "pass"⟩

/-- The server that an address names. -/
def ofAddress (address : String) : Except RedisFault Target :=
  match Url.read address with
  | .error _ => refuse "Redis URL did not parse"
  | .ok u =>
    if ["redis", "rediss", "valkey", "valkeys"].contains u.scheme then ofHost u
    else if ["unix", "redis+unix", "valkey+unix"].contains u.scheme then ofSocket u
    else refuse "Redis URL did not parse"

end Target

end FormLease.Redis
