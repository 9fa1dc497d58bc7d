/-!
# Decimal digits

Whole numbers written in decimal digits, perhaps after a sign. Leading
zeros are allowed; nothing may stand between or around the digits.
-/

namespace FormLease.Text

/-- A sign and what follows it. -/
def splitSign : List Char → Bool × List Char
  | '-' :: rest => (true, rest)
  | '+' :: rest => (false, rest)
  | s => (false, s)

/-- The value of a text that consists of decimal digits, at least
one. -/
def digits? (s : List Char) : Option Nat :=
  if s ≠ [] && s.all Char.isDigit then
    some (s.foldl (fun n c => 10 * n + (c.toNat - 0x30)) 0)
  else none

inductive NumberFault where
  | empty
  | badDigit
  | tooLarge
  deriving DecidableEq

def NumberFault.message : NumberFault → String
  | empty => "cannot parse integer from empty string"
  | badDigit => "invalid digit found in string"
  | tooLarge => "number too large to fit in target type"

/-- Reads digits after a number, from left to right until one is none or
the number does not fit. -/
def moreDigits (bits : Nat) : (n : Nat) → List Char → Except NumberFault Nat
  | n, [] => .ok n
  | n, c :: s =>
    if !c.isDigit then .error .badDigit
    else
      let n := 10 * n + (c.toNat - 0x30)
      if n < 1 <<< bits then moreDigits bits n s else .error .tooLarge

/-- Reads a number that fits a word of so many bits; a plus sign may stand
before it. -/
def readNatural (bits : Nat) (s : String) : Except NumberFault Nat :=
  match s.toList with
  | [] => .error .empty
  | ['+'] => .error .badDigit
  | '+' :: rest => moreDigits bits 0 rest
  | chars => moreDigits bits 0 chars

def natural? (bits : Nat) (s : String) : Option Nat := (readNatural bits s).toOption

/-- Whether a number fits a signed word of so many bits. There are as
many such numbers below zero as from zero on. -/
def fitsSigned (bits : Nat) : Int → Bool
  | .ofNat n => n < 1 <<< (bits - 1)
  | .negSucc n => n < 1 <<< (bits - 1)

/-- A number that fits a signed word of so many bits. -/
def integer? (bits : Nat) (s : String) : Option Int :=
  let (negative, rest) := splitSign s.toList
  ((digits? rest).map fun n => if negative then -(n : Int) else n).filter (fitsSigned bits)

example : integer? 64 "-9223372036854775808" = some (-9223372036854775808) := by decide +kernel
example : natural? 16 "+65535" = some 65535 ∧ natural? 16 "65536" = none := by decide +kernel

end FormLease.Text
