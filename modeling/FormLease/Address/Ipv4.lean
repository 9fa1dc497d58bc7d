import FormLease.Text.Cut
import FormLease.Text.Digits
import FormLease.Text.Hex

/-!
# IPv4 addresses

Four bytes between points. In the strict form each is written in decimal.
The lenient form also knows octal and hexadecimal numbers, and its last
number stands for all bytes that are left.
-/

namespace FormLease.Address.Ipv4

/-- A byte in decimal, without superfluous zeros. -/
def octet? (s : List Char) : Option Nat := do
  guard (s.length ≤ 1 || s.head? ≠ some '0')
  (Text.digits? s).filter (· < 256)

def strict? (s : List Char) : Option (List Nat) := do
  let octets ← (Text.pieces '.' s).mapM octet?
  guard (octets.length = 4)
  some octets

/-! ## The lenient form -/

/-- The value of digits in a base; no digits are zero. -/
def inBase? (base : Nat) (s : List Char) : Option Nat :=
  s.foldlM (fun n c => ((Text.hexValue? c.toLower).filter (· < base)).map (base * n + ·)) 0

/-- A number in decimal, after a zero in octal, or after `0x` in
hexadecimal. -/
def number? : List Char → Option Nat
  | [] => none
  | '0' :: 'x' :: s | '0' :: 'X' :: s => inBase? 16 s
  | '0' :: c :: s => inBase? 8 (c :: s)
  | s => inBase? 10 s

/-- The parts between points; one point at the end does not count. -/
def parts (s : List Char) : List (List Char) :=
  match (Text.pieces '.' s).reverse with
  | [] :: p :: rest => (p :: rest).reverse
  | _ => Text.pieces '.' s

/-- Whether a host ends in a number, so that it must be an address. -/
def endsInNumber (s : List Char) : Bool :=
  match (parts s).getLast? with
  | some last => (last ≠ [] && last.all Char.isDigit) || (number? last).isSome
  | none => false

/-- Reads the lenient form as the value of the four bytes. -/
def lenient? (s : List Char) : Option Nat := do
  let numbers ← (parts s).mapM number?
  guard (numbers.length ≤ 4)
  let last ← numbers.getLast?
  let before := numbers.dropLast
  guard (before.all (· < 256) && last < 1 <<< (8 * (4 - before.length)))
  let high := before.foldl (fun n octet => 256 * n + octet) 0
  some ((high <<< (8 * (4 - before.length))) + last)

def text (value : Nat) : String :=
  ".".intercalate ([24, 16, 8, 0].map fun shift => toString ((value >>> shift) % 256))

example : (lenient? "0x7f.1".toList).map text = some "127.0.0.1" := by decide +kernel
example : lenient? "1.2.3.256".toList = none := by decide +kernel
example : endsInNumber "a.09".toList = true ∧ endsInNumber "0.a".toList = false := by decide +kernel

end FormLease.Address.Ipv4
