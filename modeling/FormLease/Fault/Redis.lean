import FormLease.Text.Quoted

/-!
# Redis faults

What can go wrong between a lease store and its Redis server. Faults
found on the client side carry a class and perhaps a detail; a broken
connection, an error reply and a reply of the wrong shape each repeat
their text as the cause behind them.
-/

namespace FormLease

/-- Classes of faults found on the client side. -/
inductive RedisFault.Kind where
  | parse | authentication | unexpectedType | clientConfig | io | client | extension
  deriving DecidableEq

def RedisFault.Kind.name : RedisFault.Kind → String
  | parse => "Parse"
  | authentication => "AuthenticationFailed"
  | unexpectedType => "UnexpectedReturnType"
  | clientConfig => "InvalidClientConfig"
  | io => "Io"
  | client => "Client"
  | extension => "Extension"

inductive RedisFault where
  | raised (kind : RedisFault.Kind) (text : String) (detail : Option String)
  /-- The connection broke or could not be made. -/
  | link (text : String)
  /-- An error reply: its code and what follows it. -/
  | replied (code text : String)
  /-- A reply of the wrong shape: what was wanted and what came. -/
  | incompatible (wanted found : String)
  deriving DecidableEq

namespace RedisFault

/-- An error code of the server as messages name it. -/
def codeName : String → String
  | "ERR" => "ResponseError"
  | "READONLY" => "ReadOnly"
  | "LOADING" => "BusyLoading"
  | code => Text.quoted code

def message : RedisFault → String
  | raised kind text none => text ++ " - " ++ kind.name
  | raised kind text (some detail) => text ++ " - " ++ kind.name ++ ": " ++ detail
  | link text => text
  | replied code text => if text = "" then codeName code else codeName code ++ ": " ++ text
  | incompatible wanted found =>
    "Incompatible type - " ++ Text.quoted wanted ++ " (value was " ++ found ++ ")"

def cause? (f : RedisFault) : Option String :=
  match f with
  | raised _ _ _ => none
  | link _ | replied _ _ | incompatible _ _ => some f.message

end RedisFault

end FormLease
