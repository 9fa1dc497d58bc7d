import FormLease.Magnitude
import FormLease.Text.Digits
import FormLease.Text.Lowercase

/-!
# Binary64 numbers as text

All binary64 numbers, read from decimal text to the nearest one and
written back with the fewest digits that still read as the same number.
What is written is positional at any size: an exponent is read but never
written.
-/

namespace FormLease

inductive Binary64 where
  | finite (negative : Bool) (units : Nat)
  | infinite (negative : Bool)
  | nan
  deriving DecidableEq

namespace Binary64

/-! ## Reading -/

/-- `digits · 10^exponent`, rounded. Exponents at which the number is
surely beyond the format, or surely rounds to zero, are not carried
out. -/
def ofDecimal (negative : Bool) (digits : List Char) (exponent : Int) : Binary64 :=
  let digits := digits.dropWhile (· = '0')
  let whole := digits.foldl (fun n c => 10 * n + (c.toNat - 0x30)) 0
  let size : Int := digits.length + exponent
  if digits = [] || size < -330 then finite negative 0
  else if 310 < size then infinite negative
  else
    let units :=
      Magnitude.ofRatio (whole * Nat.pow 10 exponent.toNat) (Nat.pow 10 (-exponent).toNat)
    if units < Magnitude.ceiling then finite negative units else infinite negative

/-- The exponent after an `e`, with an optional sign. -/
def readExponent? (s : List Char) : Option Int :=
  let (negative, digits) := Text.splitSign s
  (Text.digits? digits).map fun n => if negative then -(n : Int) else n

/-- Digits with at most one point among them, and perhaps an exponent;
there must be a digit before or after the point. -/
def readNumber? (negative : Bool) (s : List Char) : Option Binary64 := do
  let whole := s.takeWhile Char.isDigit
  let rest := s.dropWhile Char.isDigit
  let (fraction, rest) :=
    match rest with
    | '.' :: after => (after.takeWhile Char.isDigit, after.dropWhile Char.isDigit)
    | other => ([], other)
  if whole = [] && fraction = [] then none
  let exponent ←
    match rest with
    | [] => some 0
    | c :: after => if c = 'e' || c = 'E' then readExponent? after else none
  some (ofDecimal negative (whole ++ fraction) (exponent - fraction.length))

/-- Reads a number, an infinity or a NaN, with an optional sign; the
words in any case. -/
def read? (s : String) : Option Binary64 :=
  let (negative, body) := Text.splitSign s.toList
  match String.ofList (body.map Char.toLower) with
  | "inf" | "infinity" => some (infinite negative)
  | "nan" => some nan
  | _ => readNumber? negative body

/-! ## Writing -/

/-- `whole · 10^exponent`. -/
structure Decimal where
  whole : Nat
  exponent : Int

/-- The least `p` with the number below 10^p, for a number of `units`
units, not zero; `fuel` bounds how far below one it is looked for. -/
def smallMagnitude (units : Nat) : (fuel : Nat) → Int
  | 0 => 0
  | fuel + 1 => if Magnitude.one ≤ 10 * units then 0 else smallMagnitude (10 * units) fuel - 1

def decimalMagnitude (units : Nat) : Int :=
  if Magnitude.one ≤ units then (Nat.toDigits 10 (units / Magnitude.one)).length
  else smallMagnitude units 330

/-- The quarter units within which a number reads as that of `units`
units, and whether the two ends belong to them. Below a power of two the
grid is twice as fine. -/
def readsAs (units : Nat) : Nat × Nat × Bool :=
  let place := Magnitude.lastPlace units
  let below := if units = place <<< 52 && 1 < place then place else 2 * place
  (4 * units - below, 4 * units + 2 * place, (units / place) % 2 = 0)

/-- A number of `digits` digits that reads back as that of `units` units:
one of the two next to it, the nearer if both do, and the larger if both
are as near. -/
def withDigits? (units digits : Nat) : Option Decimal :=
  let exponent := decimalMagnitude units - digits
  -- both sides of a comparison in quarter units, times `down`
  let up := Nat.pow 10 exponent.toNat * 4 * Magnitude.one
  let down := Nat.pow 10 (-exponent).toNat
  let value := 4 * units * down
  let (low, high, ends) := readsAs units
  let fits (n : Nat) : Bool :=
    if ends then low * down ≤ n * up && n * up ≤ high * down
    else low * down < n * up && n * up < high * down
  let floor := value / up
  let candidates :=
    if value - floor * up < (floor + 1) * up - value then [floor, floor + 1]
    else [floor + 1, floor]
  (candidates.find? fits).map fun n => ⟨n, exponent⟩

/-- The decimal of fewest digits that reads back as the number; 17 are
always enough. -/
def shortest (units : Nat) : Decimal :=
  (((List.range 17).map (· + 1)).findSome? (withDigits? units)).getD ⟨units / Magnitude.one, 0⟩

/-- The text of a decimal without an exponent. -/
def positional (d : Decimal) : List Char :=
  let digits := Nat.toDigits 10 d.whole
  if 0 ≤ d.exponent then digits ++ List.replicate d.exponent.toNat '0'
  else
    let places := (-d.exponent).toNat
    let padded := List.replicate (places + 1 - digits.length) '0' ++ digits
    let (whole, fraction) := padded.splitAt (padded.length - places)
    let fraction := (fraction.reverse.dropWhile (· = '0')).reverse
    if fraction = [] then whole else whole ++ '.' :: fraction

def magnitudeText (units : Nat) : List Char :=
  if units = 0 then ['0'] else positional (shortest units)

def signed (negative : Bool) (s : List Char) : String :=
  String.ofList (if negative then '-' :: s else s)

def text : Binary64 → String
  | finite negative units => signed negative (magnitudeText units)
  | infinite negative => signed negative "inf".toList
  | nan => "NaN"

/-- As `text`, but a finite number always has a point. -/
def pointedText (x : Binary64) : String :=
  match x with
  | finite _ _ => if x.text.toList.contains '.' then x.text else x.text ++ ".0"
  | _ => x.text

/-! ## Values -/

/-- The value of a finite number in its units. -/
def signedUnits : Binary64 → Int
  | finite negative units => if negative then -(units : Int) else units
  | _ => 0

/-- The order of numbers: the two zeros are the same number, and what is
no number comes last. -/
def compareValue (a b : Binary64) : Ordering :=
  let rank : Binary64 → Nat
    | infinite true => 0
    | finite _ _ => 1
    | infinite false => 2
    | nan => 3
  (compare (rank a) (rank b)).then (compare a.signedUnits b.signedUnits)

def isZero : Binary64 → Bool
  | finite _ units => units = 0
  | _ => false

/-- Rounded to a whole number, a half away from zero, and cut off to what
64 bits hold; no number is none. -/
def toWord : Binary64 → Nat
  | finite true _ | infinite true | nan => 0
  | infinite false => (1 <<< 64) - 1
  | finite false units =>
    min ((2 * units + Magnitude.one) / (2 * Magnitude.one)) ((1 <<< 64) - 1)

end Binary64

end FormLease
