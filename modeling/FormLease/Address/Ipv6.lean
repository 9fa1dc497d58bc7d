import FormLease.Address.Ipv4

/-!
# IPv6 addresses

Eight groups of 16 bits, written in hexadecimal between colons. A row of
zero groups may be left out once, and the last two groups may be given
as an IPv4 address.
-/

namespace FormLease.Address

/-- Eight numbers of 16 bits. -/
abbrev Ipv6 := List Nat

namespace Ipv6

def group? (s : List Char) : Option Nat := do
  guard (s ≠ [] && s.length ≤ 4)
  let values ← s.mapM fun c => Text.hexValue? c.toLower
  some (values.foldl (fun n v => 16 * n + v) 0)

def ipv4Groups? (s : List Char) : Option (List Nat) := do
  match ← Ipv4.strict? s with
  | [a, b, c, d] => some [256 * a + b, 256 * c + d]
  | _ => none

/-- Groups between colons, the last of them perhaps an IPv4 address. -/
def groups? : List (List Char) → Option (List Nat)
  | [] => some []
  | [last] => if last.contains '.' then ipv4Groups? last else (group? last).map ([·])
  | s :: rest => do
    let g ← group? s
    (groups? rest).map (g :: ·)

def part? (s : List Char) : Option (List Nat) :=
  if s = [] then some [] else groups? (Text.pieces ':' s)

def read? (s : List Char) : Option Ipv6 := do
  match Text.cut? [':', ':'] s with
  | none =>
    let groups ← part? s
    guard (groups.length = 8)
    some groups
  | some (before, after) =>
    guard (!before.contains '.')
    let before ← part? before
    let after ← part? after
    guard (before.length + after.length < 8)
    some (before ++ List.replicate (8 - before.length - after.length) 0 ++ after)

def zeroRun (groups : List Nat) : Nat := (groups.takeWhile (· = 0)).length

/-- Where the longest row of zero groups begins, the first of several,
and how long it is. -/
def longestRun (a : Ipv6) : Nat × Nat :=
  (List.range a.length).foldl (fun best i =>
    let run := zeroRun (a.drop i)
    if best.2 < run then (i, run) else best) (0, 0)

def joined (groups : List Nat) : List Char :=
  [':'].intercalate (groups.map Text.hexDigits)

/-- The shortest usual form. -/
def text (a : Ipv6) : String :=
  let (start, run) := longestRun a
  match a with
  | [0, 0, 0, 0, 0, 0xffff, high, low] =>
    "::ffff:" ++ ".".intercalate ([high / 256, high % 256, low / 256, low % 256].map toString)
  | _ =>
    String.ofList
      (if run ≤ 1 then joined a
      else joined (a.take start) ++ [':', ':'] ++ joined (a.drop (start + run)))

example : (read? "::1".toList).map text = some "::1" := by decide +kernel
example : (read? "2001:DB8:0:0:1:0:0:1".toList).map text = some "2001:db8::1:0:0:1" := by
  decide +kernel
example : read? "1::2::3".toList = none := by decide +kernel

end Ipv6

end FormLease.Address
