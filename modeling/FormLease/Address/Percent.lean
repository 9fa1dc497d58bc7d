import FormLease.Text.Hex
import FormLease.Text.Utf8

/-!
# Percent decoding

In parts of an address `%` and two hexadecimal digits stand for a byte.
What is decoded is bytes and not characters: several of them may make up
one character, and some make up none.
-/

namespace FormLease.Address

/-- The bytes that a part of an address stands for. A percent sign
without two digits after it stands for itself. -/
def percentBytes : List Char → List UInt8
  | [] => []
  | [c] => (String.singleton c).toUTF8.toList
  | [c, d] => (String.singleton c).toUTF8.toList ++ (String.singleton d).toUTF8.toList
  | c :: high :: low :: rest =>
    match (if c = '%' then Text.readHexByte? [high.toLower, low.toLower] else none) with
    | some b => b :: percentBytes rest
    | none => (String.singleton c).toUTF8.toList ++ percentBytes (high :: low :: rest)

/-- The text that a part of an address stands for, if its bytes are the
encoding of one. -/
def decoded (s : List Char) : Except Text.Broken String := Text.ofUtf8 (percentBytes s)

def percentText? (s : List Char) : Option String := (decoded s).toOption

/-- The text of a name or value in a query, where a plus sign stands for
a blank. -/
def queryText (s : List Char) : String :=
  Text.ofUtf8Lenient (percentBytes (s.map fun c => if c = '+' then ' ' else c))

end FormLease.Address
