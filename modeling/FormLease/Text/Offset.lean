import FormLease.Text.Cut

/-!
# Places counted in bytes

A place in a text can be given as the number of UTF-8 bytes in front of
it. The part of a text between two such numbers exists only where both
fall between characters of the text and the second is not smaller.
-/

namespace FormLease.Text

/-- Where the first `mark` begins. -/
def placeOf? (mark s : String) : Option Nat :=
  (cut? mark.toList s.toList).map fun pieces => (String.ofList pieces.1).utf8ByteSize

/-- Where the last `mark` begins. -/
def lastPlaceOf? (mark : Char) (s : String) : Option Nat :=
  (cutLast? mark s.toList).map fun pieces => (String.ofList pieces.1).utf8ByteSize

def slice? (s : String) (first last : Nat) : Option String := do
  let p ← s.pos? ⟨first⟩
  let q ← s.pos? ⟨last⟩
  if p ≤ q then some (s.extract p q) else none

example : slice? "née" 0 3 = some "né" := by decide +kernel
example : slice? "née" 0 2 = none := by decide +kernel

end FormLease.Text
