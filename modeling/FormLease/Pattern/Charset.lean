/-!
# Sets of characters

What one place of a pattern may hold: ranges of characters and what can
be made of them by union, intersection and complement. A set is data, so
that two patterns can be compared, and `Charset.contains` says what is in
it.
-/

namespace FormLease

inductive Charset where
  | empty
  | range (first last : Char)
  | either (a b : Charset)
  | both (a b : Charset)
  | not (a : Charset)
  /-- A set with the ASCII letters of its letters' other case. -/
  | anyCase (a : Charset)
  deriving DecidableEq

namespace Charset

def contains : Charset → Char → Bool
  | empty, _ => false
  | range first last, c => first ≤ c && c ≤ last
  | either a b, c => a.contains c || b.contains c
  | both a b, c => a.contains c && b.contains c
  | not a, c => !a.contains c
  | anyCase a, c => a.contains c || a.contains c.toLower || a.contains c.toUpper

def single (c : Char) : Charset := range c c

def ofRanges (ranges : List (Char × Char)) : Charset :=
  ranges.foldr (fun (first, last) rest => either (range first last) rest) empty

def all : Charset := not empty

def without (a b : Charset) : Charset := both a (not b)

/-- What is in one of two sets but not in both. -/
def inOneOf (a b : Charset) : Charset := either (without a b) (without b a)

/-! ## Sets with a name -/

def digits : Charset := range '0' '9'

def lower : Charset := range 'a' 'z'

def upper : Charset := range 'A' 'Z'

def letters : Charset := either lower upper

def wordChars : Charset := either (single '_') (either digits letters)

def spaces : Charset := either (range '\t' '\r') (single ' ')

/-- The ASCII characters of a kind, by the name of the kind. -/
def ofName? : String → Option Charset
  | "alnum" => some (either digits letters)
  | "alpha" => some letters
  | "ascii" => some (range '\x00' '\x7f')
  | "blank" => some (either (single '\t') (single ' '))
  | "cntrl" => some (either (range '\x00' '\x1f') (single '\x7f'))
  | "digit" => some digits
  | "graph" => some (range '!' '~')
  | "lower" => some lower
  | "print" => some (range ' ' '~')
  | "punct" => some (ofRanges [('!', '/'), (':', '@'), ('[', '\x60'), ('\x7b', '~')])
  | "space" => some spaces
  | "upper" => some upper
  | "word" => some wordChars
  | "xdigit" => some (ofRanges [('0', '9'), ('A', 'F'), ('a', 'f')])
  | _ => none

end Charset

end FormLease
