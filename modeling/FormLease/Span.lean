import FormLease.Magnitude

/-!
# Lengths of time

A `Span` is a whole number of nanoseconds, at most `Span.maxNanos`. Sums
and products that would be longer stop there, and `Span.ofNanos` is the
one place where that happens. `Span.fractionNanos` is the random part of
a span: seconds as a binary64 number times a draw from [0, 1), back to
whole nanoseconds.
-/

namespace FormLease

/-- 2^64 seconds less a nanosecond. -/
def Span.maxNanos : Nat := (1 <<< 64) * 1000000000 - 1

/-- A length of time in whole nanoseconds. -/
structure Span where
  nanos : Nat
  le_max : nanos ≤ Span.maxNanos
  deriving DecidableEq

/-- One of the 2^53 evenly spaced numbers of [0, 1); `d` stands for
`d / 2^53`. -/
abbrev Draw := Fin (1 <<< 53)

/-- The draw that a number stands for; one that is too large counts from
zero again. -/
def Draw.ofNat (n : Nat) : Draw := ⟨n % (1 <<< 53), Nat.mod_lt n (by decide)⟩

instance (n : Nat) : OfNat Draw n := ⟨Draw.ofNat n⟩

namespace Span

/-- The span of so many nanoseconds, or the longest one. -/
def ofNanos (n : Nat) : Span := ⟨min n maxNanos, Nat.min_le_right _ _⟩

instance : Inhabited Span := ⟨ofNanos 0⟩

def zero : Span := ofNanos 0

def longest : Span := ofNanos maxNanos

def ofSeconds (s : Nat) : Span := ofNanos (s * 1000000000)

def ofMillis (ms : Nat) : Span := ofNanos (ms * 1000000)

/-- Whole seconds and the nanoseconds beyond them. -/
def ofParts (seconds nanos : Nat) : Span := ofNanos (seconds * 1000000000 + nanos)

def seconds (s : Span) : Nat := s.nanos / 1000000000

/-- The nanoseconds beyond the whole seconds. -/
def subsecNanos (s : Span) : Nat := s.nanos % 1000000000

def millis (s : Span) : Nat := s.nanos / 1000000

/-- Whole milliseconds as a word of 64 bits; a longer count wraps
around. -/
def millisWord (s : Span) : Nat := s.millis % (1 <<< 64)

def add (a b : Span) : Span := ofNanos (a.nanos + b.nanos)

def mul (s : Span) (k : Nat) : Span := ofNanos (s.nanos * k)

/-- The span in seconds as a binary64 magnitude: whole seconds and the
rest are rounded each by itself, and so is their sum. -/
def binarySeconds (s : Span) : Nat :=
  Magnitude.add (Magnitude.ofNat s.seconds) (Magnitude.ofRatio s.subsecNanos (1000000000))

/-- The nanoseconds in the part of a span that a draw picks out. The
product in seconds is rounded to binary64 and that to the nearest
nanosecond, ties to even. -/
def fractionNanos (s : Span) (draw : Draw) : Nat :=
  nearestEven (Magnitude.nearest (s.binarySeconds * draw.val) (1 <<< 53) * 1000000000) Magnitude.one

def fraction (s : Span) (draw : Draw) : Span := ofNanos (s.fractionNanos draw)

end Span

end FormLease
