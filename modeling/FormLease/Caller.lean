import FormLease.Text.Quoted

/-!
# Callers

On whose behalf leases are asked for.
-/

namespace FormLease

structure Caller where
  user : String
  deriving DecidableEq

/-- The caller as diagnostics show it; the store it works on is left
out. -/
def Caller.diagnostic (c : Caller) : String :=
  "CallingContext \x7b current_user: " ++ Text.quoted c.user ++ ", .. \x7d"

end FormLease
