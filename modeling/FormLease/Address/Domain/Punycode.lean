/-!
# Punycode

A name in other characters than ASCII, written in letters, digits and
hyphens. The ASCII characters of the name come first, and after the last
hyphen numbers in base 36 say where the others go, in ascending order.
-/

namespace FormLease.Address.Domain.Punycode

def digit? (c : Char) : Option Nat :=
  if c.isLower then some (c.toNat - 0x61)
  else if c.isDigit then some (c.toNat - 0x30 + 26)
  else none

/-- How often a difference is divided to become small, and what is left
of it. -/
def shrunk : (fuel delta : Nat) → Nat × Nat
  | 0, delta => (0, delta)
  | fuel + 1, delta =>
    if 455 < delta then
      let (times, rest) := shrunk fuel (delta / 35)
      (times + 1, rest)
    else (0, delta)

/-- The bias after a difference, with so many characters placed. -/
def adapted (delta placed : Nat) (first : Bool) : Nat :=
  let delta := delta / (if first then 700 else 2)
  let (times, rest) := shrunk 32 (delta + delta / placed)
  36 * times + 36 * rest / (rest + 38)

/-- Reads one number: digits below their threshold end it. `place` counts
in steps of 36. -/
def number? (bias : Nat) : (place weight value : Nat) → List Char → Option (Nat × List Char)
  | _, _, _, [] => none
  | place, weight, value, c :: s => do
    let digit ← digit? c
    let value := value + digit * weight
    guard (value < 1 <<< 32)
    let threshold := min 26 (max 1 (place - bias))
    if digit < threshold then some (value, s)
    else number? bias (place + 36) (weight * (36 - threshold)) value s

/-- Puts the remaining characters at their places. `next` is the code
point and `index` the place to count from. -/
def placed? : (fuel next index bias : Nat) → List Char → List Char → Option (List Char)
  | _, _, _, _, done, [] => some done
  | 0, _, _, _, _, _ => none
  | fuel + 1, next, index, bias, done, s => do
    let (delta, s) ← number? bias 36 1 0 s
    let count := done.length + 1
    let total := index + delta
    let code := next + total / count
    guard code.isValidChar
    let spot := total % count
    placed? fuel code (spot + 1) (adapted delta count (index = 0))
      (done.take spot ++ Char.ofNat code :: done.drop spot) s

/-- The ASCII characters before the last hyphen, and what follows it. -/
def splitBasic (s : List Char) : List Char × List Char :=
  let tail := (s.reverse.takeWhile (· ≠ '-')).reverse
  if tail.length = s.length then ([], s)
  else (s.take (s.length - tail.length - 1), tail)

def decode? (s : List Char) : Option (List Char) :=
  let (basic, rest) := splitBasic s
  placed? rest.length 128 0 72 basic rest

end FormLease.Address.Domain.Punycode
