import FormLease.Binary64
import FormLease.Text.Hex
import FormLease.Toml.Value

/-!
# Numbers in documents

Whole numbers in four bases and floating-point numbers. Digits may be
grouped by single underscores. A whole number must fit a signed word of
64 bits, and a floating-point number the range of binary64.
-/

namespace FormLease.Toml

/-- Digits without their underscores: each of those must stand between
two digits. There must be a digit. -/
def ungrouped (isDigit : Char → Bool) : List Char → Option (List Char)
  | [] => none
  | [c] => if isDigit c then some [c] else none
  | c :: '_' :: rest => if isDigit c then (ungrouped isDigit rest).map (c :: ·) else none
  | c :: rest => if isDigit c then (ungrouped isDigit rest).map (c :: ·) else none

/-- A whole number, if it fits a signed word of 64 bits. -/
def wordOrNone (n : Int) : Option Value :=
  if Text.fitsSigned 64 n then some (.integer n) else none

/-- A number in a base of its own, after its mark. -/
def based (base : Nat) (s : List Char) : Option Value := do
  let value (c : Char) : Option Nat := (Text.hexValue? c.toLower).filter (· < base)
  let digits ← ungrouped (fun c => (value c).isSome) s
  wordOrNone (digits.foldl (fun n c => base * n + (value c).getD 0) 0)

/-- Decimal digits that begin with no superfluous zero. -/
def wholePart (s : List Char) : Option (List Char) := do
  let digits ← ungrouped Char.isDigit s
  if digits.head? = some '0' && digits.length ≠ 1 then none else some digits

/-- The exponent of a floating-point number, if there is one. -/
def exponentPart : List Char → Option Int
  | [] => some 0
  | c :: rest => do
    guard (c = 'e' || c = 'E')
    let (negative, digits) := Text.splitSign rest
    let digits ← ungrouped Char.isDigit digits
    let n ← Text.digits? digits
    some (if negative then -(n : Int) else n)

/-- A decimal number after its sign. -/
def decimal (negative : Bool) (s : List Char) : Option Value := do
  let inDigits (c : Char) : Bool := c.isDigit || c = '_'
  let whole ← wholePart (s.takeWhile inDigits)
  match s.dropWhile inDigits with
  | [] =>
    let n ← Text.digits? whole
    wordOrNone (if negative then -(n : Int) else n)
  | rest =>
    let (fraction, rest) ←
      match rest with
      | '.' :: after =>
        (ungrouped Char.isDigit (after.takeWhile inDigits)).map (·, after.dropWhile inDigits)
      | other => some ([], other)
    let exponent ← exponentPart rest
    match Binary64.ofDecimal negative (whole ++ fraction) (exponent - fraction.length) with
    | .infinite _ => none
    | x => some (.float x)

def number (s : List Char) : Option Value :=
  match s with
  | '0' :: 'x' :: digits => based 16 digits
  | '0' :: 'o' :: digits => based 8 digits
  | '0' :: 'b' :: digits => based 2 digits
  | _ =>
    let (negative, body) := Text.splitSign s
    if body = "inf".toList then some (.float (.infinite negative))
    else if body = "nan".toList then some (.float .nan)
    else decimal negative body

end FormLease.Toml
