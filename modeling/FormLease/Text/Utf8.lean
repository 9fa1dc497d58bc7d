/-!
# Bytes as text

UTF-8 read from bytes. Where bytes are not the encoding of a text there
is a first sequence that is none, and `Broken` says where it begins and
how long it is: the bytes that could still begin a character, or one
byte.
-/

namespace FormLease.Text

/-- A sequence that encodes no character. -/
structure Broken where
  index : Nat
  /-- How long it is; nothing if the bytes end before the character
  does. -/
  length : Option Nat
  deriving DecidableEq

namespace Broken

def message (b : Broken) : String :=
  match b.length with
  | some n =>
    "invalid utf-8 sequence of " ++ toString n ++ " bytes from index " ++ toString b.index
  | none => "incomplete utf-8 byte sequence from index " ++ toString b.index

end Broken

/-- The ranges of the bytes that follow the first byte of a character;
nothing if no character begins with it. -/
def followers? (first : UInt8) : Option (List (UInt8 × UInt8)) :=
  let usual : UInt8 × UInt8 := (0x80, 0xbf)
  if first < 0x80 then some []
  else if first < 0xc2 then none
  else if first < 0xe0 then some [usual]
  else if first = 0xe0 then some [(0xa0, 0xbf), usual]
  else if first = 0xed then some [(0x80, 0x9f), usual]
  else if first < 0xf0 then some [usual, usual]
  else if first = 0xf0 then some [(0x90, 0xbf), usual, usual]
  else if first < 0xf4 then some [usual, usual, usual]
  else if first = 0xf4 then some [(0x80, 0x8f), usual, usual]
  else none

/-- How many bytes at the beginning are in their ranges. -/
def inRanges : List (UInt8 × UInt8) → List UInt8 → Nat
  | (low, high) :: ranges, b :: bytes =>
    if low ≤ b && b ≤ high then inRanges ranges bytes + 1 else 0
  | _, _ => 0

/-- How long the character at the beginning of some bytes is, or the
sequence that is none. -/
def leadingLength (first : UInt8) (rest : List UInt8) : Except (Option Nat) Nat :=
  match followers? first with
  | none => .error (some 1)
  | some ranges =>
    let found := inRanges ranges rest
    if found = ranges.length then .ok (found + 1)
    else if found = rest.length then .error none
    else .error (some (found + 1))

/-- The first sequence that encodes no character; `index` counts the
bytes before. -/
def broken? : (fuel index : Nat) → List UInt8 → Option Broken
  | 0, _, _ => none
  | _, _, [] => none
  | fuel + 1, index, b :: rest =>
    match leadingLength b rest with
    | .ok n => broken? fuel (index + n) ((b :: rest).drop n)
    | .error length => some ⟨index, length⟩

/-- The text that bytes are the encoding of. -/
def ofUtf8 (bytes : List UInt8) : Except Broken String :=
  match String.fromUTF8? ⟨bytes.toArray⟩, broken? bytes.length 0 bytes with
  | some s, _ => .ok s
  | none, some b => .error b
  | none, none => .error ⟨0, none⟩

/-- The text of bytes, with a replacement character for each sequence
that encodes nothing; `fuel` bounds the number of characters. -/
def lenient : (fuel : Nat) → List UInt8 → String
  | 0, _ => ""
  | _, [] => ""
  | fuel + 1, b :: rest =>
    match leadingLength b rest with
    | .ok n =>
      (String.fromUTF8? ⟨((b :: rest).take n).toArray⟩).getD "" ++ lenient fuel ((b :: rest).drop n)
    | .error (some n) => "\ufffd" ++ lenient fuel ((b :: rest).drop n)
    | .error none => "\ufffd"

def ofUtf8Lenient (bytes : List UInt8) : String := lenient bytes.length bytes

example : ofUtf8Lenient [0xf0, 0x9f, 0x98, 0x80, 0xf0, 0x9f] = "😀\ufffd" := by decide +kernel
example : broken? 3 0 [0x61, 0xff, 0x62] = some ⟨1, some 1⟩ := by decide +kernel

end FormLease.Text
