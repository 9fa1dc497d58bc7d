/-!
# Hexadecimal text

Lower-case hexadecimal digits: as many as a number needs, and exactly two
for a byte.
-/

namespace FormLease.Text

def hexDigit (n : Nat) : Char :=
  if n < 10 then Char.ofNat (0x30 + n) else Char.ofNat (0x61 + (n - 10))

def hexValue? (c : Char) : Option Nat :=
  if '0' ≤ c ∧ c ≤ '9' then some (c.toNat - 0x30)
  else if 'a' ≤ c ∧ c ≤ 'f' then some (c.toNat - 0x61 + 10)
  else none

/-- The digits of a number, as many as needed, at least one. -/
def hexDigits (n : Nat) : List Char :=
  if _h : n < 16 then [hexDigit n]
  else hexDigits (n / 16) ++ [hexDigit (n % 16)]
termination_by n
decreasing_by omega

/-- A byte as two digits, the higher first. -/
def hexByte (b : UInt8) : List Char := [hexDigit (b.toNat / 16), hexDigit (b.toNat % 16)]

def readHexByte? : List Char → Option UInt8
  | [high, low] => do
    let h ← hexValue? high
    let l ← hexValue? low
    some (UInt8.ofNat (16 * h + l))
  | _ => none

end FormLease.Text
