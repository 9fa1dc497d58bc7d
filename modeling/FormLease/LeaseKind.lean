import FormLease.Span

/-!
# Kinds of lease

A kind says what a lease is for and its term: how long a holder who
never comes back keeps others out.
-/

namespace FormLease

structure LeaseKind where
  name : String
  term : Span
  deriving DecidableEq

namespace LeaseKind

/-- For changing a submission. The term is far above the 3.75 seconds
that a holder may have waited for the lease. -/
def modification : LeaseKind := ⟨"MODIFICATION", Span.ofSeconds 66⟩

end LeaseKind

end FormLease
