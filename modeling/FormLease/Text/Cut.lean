/-!
# Cutting text

Where a text begins with another, and where it first or last contains
one. Everything is a recursion on the characters, and what is cut is
given back in pieces, so no position is ever out of range.
-/

namespace FormLease.Text

/-- What follows `lead` in a text that begins with it. -/
def afterLead? : (lead s : List Char) → Option (List Char)
  | [], s => some s
  | _ :: _, [] => none
  | l :: lead, c :: s => if l = c then afterLead? lead s else none

/-- What stands before and after the first `mark` in a text. -/
def cut? (mark : List Char) : List Char → Option (List Char × List Char)
  | [] => if mark = [] then some ([], []) else none
  | c :: s =>
    match afterLead? mark (c :: s) with
    | some after => some ([], after)
    | none => (cut? mark s).map fun (before, after) => (c :: before, after)

/-- What stands before and after the last `mark` in a text. -/
def cutLast? (mark : Char) : List Char → Option (List Char × List Char)
  | [] => none
  | c :: s =>
    match cutLast? mark s with
    | some (before, after) => some (c :: before, after)
    | none => if c = mark then some ([], s) else none

/-- The pieces of a text between the characters that are `mark`; one
more than there are marks. -/
def pieces (mark : Char) : List Char → List (List Char)
  | [] => [[]]
  | c :: s =>
    if c = mark then [] :: pieces mark s
    else
      match pieces mark s with
      | [] => [[c]]
      | p :: rest => (c :: p) :: rest

/-- Every `mark`, read from left to right, replaced by another text. -/
def replaceAll (mark new : List Char) (s : List Char) : List Char :=
  go s.length s
where
  /-- `fuel` bounds how many characters are still looked at. -/
  go : Nat → List Char → List Char
    | 0, s => s
    | _, [] => []
    | fuel + 1, c :: s =>
      match afterLead? mark (c :: s) with
      | some after => new ++ go fuel after
      | none => c :: go fuel s

/-- ASCII letters in lower case, all else as it is. -/
def asciiLower (s : String) : String := s.map Char.toLower

end FormLease.Text
