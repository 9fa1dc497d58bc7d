/-!
# Binary64 magnitudes

A finite non-negative binary64 number is a whole number of units of
2^-1074, so it is a `Nat` here and every operation is exact arithmetic
followed by one rounding. `nearest` is that rounding: a quotient of
naturals goes to the nearest number of 53 significant binary digits, and
a tie goes to the even significand. Nothing in this file is cut off
above: what is too large for the format is decided where a number of
unknown size is read (`Binary64`).
-/

namespace FormLease

/-- `num / den` to the nearest whole number, a half to the even neighbour. -/
def nearestEven (num den : Nat) : Nat :=
  let whole := num / den
  let twice := 2 * (num % den)
  if twice < den then whole
  else if den < twice then whole + 1
  else if whole % 2 = 0 then whole
  else whole + 1

namespace Magnitude

/-- How many units make one. -/
def one : Nat := 1 <<< 1074

/-- The weight of the last of 53 binary digits for a number of `whole`
units; below 2^53 units the grid is the unit itself. -/
def lastPlace (whole : Nat) : Nat := 1 <<< (Nat.log2 whole - 52)

/-- The binary64 magnitude nearest to `num / den` units. -/
def nearest (num den : Nat) : Nat :=
  let place := lastPlace (num / den)
  nearestEven num (den * place) * place

def ofNat (n : Nat) : Nat := nearest (n * one) 1

/-- The magnitude nearest to the quotient of two naturals. -/
def ofRatio (num den : Nat) : Nat := nearest (num * one) den

def add (a b : Nat) : Nat := nearest (a + b) 1

def mul (a b : Nat) : Nat := nearest (a * b) one

/-- The least magnitude too large for the format, 2^1024. -/
def ceiling : Nat := one <<< 1024

/-- The interchange encoding of a magnitude below `ceiling`: the biased
exponent counts doublings of the place, and a significand of 53 digits
stands without its leading one. -/
def bits (units : Nat) : Nat :=
  let doublings := Nat.log2 units - 52
  let significand := units >>> doublings
  if significand < 1 <<< 52 then significand
  else ((doublings + 1) <<< 52) + (significand - (1 <<< 52))

example : bits 0 = 0 := by decide +kernel
example : bits (ofNat 1) = 0x3ff0000000000000 := by decide +kernel
example : bits (ofRatio 1 10) = 0x3fb999999999999a := by decide +kernel
example : bits (nearest 1 1) = 1 := by decide +kernel
example : ofNat ((1 <<< 53) + 1) = ofNat (1 <<< 53) := by decide +kernel

end Magnitude

end FormLease
