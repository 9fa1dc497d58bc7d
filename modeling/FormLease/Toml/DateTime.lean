import FormLease.Binary64

/-!
# Dates and times in documents

A date, a time of day, or both, and with both perhaps an offset. What is
read is a real date and a real time, and what is kept is its normal
text: a `T` between date and time, seconds if they were given, and
fractions of a second to at most nine places, without zeros at their end
but for one that stands alone.
-/

namespace FormLease.Toml

/-- The value of exactly so many digits at the beginning. -/
def digits? (count : Nat) (s : List Char) : Option (Nat × List Char) := do
  guard (count ≤ s.length)
  let n ← Text.digits? (s.take count)
  some (n, s.drop count)

def expect (c : Char) : List Char → Option (List Char)
  | d :: rest => if c = d then some rest else none
  | [] => none

def isLeap (year : Nat) : Bool := year % 4 = 0 && (year % 100 ≠ 0 || year % 400 = 0)

def daysIn (year month : Nat) : Nat :=
  match month with
  | 2 => if isLeap year then 29 else 28
  | 4 | 6 | 9 | 11 => 30
  | _ => 31

/-- A number in at least so many digits. -/
def padded (width n : Nat) : List Char :=
  let digits := Nat.toDigits 10 n
  List.replicate (width - digits.length) '0' ++ digits

/-- A date as its normal text, and what follows it. -/
def date? (s : List Char) : Option (List Char × List Char) := do
  let (year, s) ← digits? 4 s
  let (month, s) ← digits? 2 (← expect '-' s)
  let (day, s) ← digits? 2 (← expect '-' s)
  guard (1 ≤ month && month ≤ 12 && 1 ≤ day && day ≤ daysIn year month)
  some (padded 4 year ++ '-' :: padded 2 month ++ '-' :: padded 2 day, s)

/-- The normal text of a fraction of a second, and what follows it. -/
def fraction? : List Char → Option (List Char × List Char)
  | '.' :: s => do
    let digits := s.takeWhile Char.isDigit
    guard (digits ≠ [])
    let kept := ((digits.take 9).reverse.dropWhile (· = '0')).reverse
    some ('.' :: (if kept = [] then ['0'] else kept), s.dropWhile Char.isDigit)
  | s => some ([], s)

/-- The normal text of seconds, which may be left out, and what follows
it. There is room for a leap second. -/
def seconds? : List Char → Option (List Char × List Char)
  | ':' :: s => do
    let (second, s) ← digits? 2 s
    guard (second ≤ 60)
    let (fraction, s) ← fraction? s
    some (':' :: padded 2 second ++ fraction, s)
  | s => some ([], s)

/-- A time of day as its normal text, and what follows it. -/
def time? (s : List Char) : Option (List Char × List Char) := do
  let (hour, s) ← digits? 2 s
  let (minute, s) ← digits? 2 (← expect ':' s)
  guard (hour ≤ 23 && minute ≤ 59)
  let (seconds, s) ← seconds? s
  some (padded 2 hour ++ ':' :: padded 2 minute ++ seconds, s)

/-- An offset as its normal text; nothing may follow it. -/
def offset? : List Char → Option (List Char)
  | [] => some []
  | [c] => if c = 'Z' || c = 'z' then some ['Z'] else none
  | c :: s => do
    guard (c = '+' || c = '-')
    let (hour, s) ← digits? 2 s
    let (minute, s) ← digits? 2 (← expect ':' s)
    guard (s = [] && hour ≤ 23 && minute ≤ 59)
    let sign := if hour = 0 && minute = 0 then '+' else c
    some (sign :: padded 2 hour ++ ':' :: padded 2 minute)

/-- The normal text of a date, a time or both. -/
def dateTime? (s : List Char) : Option String :=
  match date? s with
  | some (date, []) => some (String.ofList date)
  | some (date, c :: rest) => do
    guard (c = 'T' || c = 't' || c = ' ')
    let (time, rest) ← time? rest
    let offset ← offset? rest
    some (String.ofList (date ++ 'T' :: time ++ offset))
  | none => do
    let (time, rest) ← time? s
    guard (rest = [])
    some (String.ofList time)

end FormLease.Toml
