import FormLease.Address.Ipv6

/-!
# Networks

Where a server is, and whether it can be reached from where a process
runs.
-/

namespace FormLease

inductive Endpoint where
  | tcp (host : String) (port : Nat)
  | socket (path : String)
  deriving DecidableEq

namespace Endpoint

/-- Whether nobody has to be asked for the number of a host. -/
def isKnown (host : String) : Bool :=
  host = "localhost" || (Address.Ipv4.strict? host.toList).isSome
    || (Address.Ipv6.read? host.toList).isSome

end Endpoint

inductive Network where
  | reachable
  /-- There is nothing beyond the process, not even a socket. -/
  | none
  deriving DecidableEq

/-- Why a connection cannot be made. -/
def Network.obstacle? (network : Network) (endpoint : Endpoint) : Option String :=
  match network, endpoint with
  | reachable, _ => Option.none
  | none, .socket _ => some "No such file or directory (os error 2)"
  | none, .tcp host _ =>
    if Endpoint.isKnown host then some "Network is unreachable (os error 101)"
    else some "failed to lookup address information: Temporary failure in name resolution"

end FormLease
