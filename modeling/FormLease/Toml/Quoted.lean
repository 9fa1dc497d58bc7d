import FormLease.Text.Hex

/-!
# Quoted text in documents

The four forms of quoted text: with escapes between double quotes, as it
stands between single quotes, and both over several lines between
tripled quotes. Each reader begins after the opening quotes and gives
the text and what follows the closing ones.
-/

namespace FormLease.Toml

def isBlank (c : Char) : Bool := c = ' ' || c = '\t'

/-- Characters that may stand in a text or a comment on one line: no
controls but the tab. -/
def isPlain (c : Char) : Bool := c = '\t' || (0x20 ≤ c.toNat && c.toNat ≠ 0x7f)

/-- The character of a code point in hexadecimal digits of either case;
surrogates are no characters. -/
def codePoint? (digits : List Char) : Option Char := do
  let code ← digits.foldlM (fun n c => (Text.hexValue? c.toLower).map (16 * n + ·)) 0
  if code.isValidChar then some (Char.ofNat code) else none

/-- The character of an escape of one letter. -/
def shortEscape? : Char → Option Char
  | 'b' => some '\x08'
  | 't' => some '\t'
  | 'n' => some '\n'
  | 'f' => some '\x0c'
  | 'r' => some '\r'
  | 'e' => some '\x1b'
  | '"' => some '"'
  | '\\' => some '\\'
  | _ => none

/-- Puts a character, if there is one, before a text that was read. -/
def before (c : Option Char) (r : Option (List Char × List Char)) :
    Option (List Char × List Char) := do
  let c ← c
  let (text, rest) ← r
  some (c :: text, rest)

def basic : List Char → Option (List Char × List Char)
  | [] => none
  | '"' :: rest => some ([], rest)
  | '\\' :: 'x' :: a :: b :: rest => before (codePoint? [a, b]) (basic rest)
  | '\\' :: 'u' :: a :: b :: c :: d :: rest => before (codePoint? [a, b, c, d]) (basic rest)
  | '\\' :: 'U' :: a :: b :: c :: d :: e :: f :: g :: h :: rest =>
    before (codePoint? [a, b, c, d, e, f, g, h]) (basic rest)
  | '\\' :: c :: rest => before (shortEscape? c) (basic rest)
  | c :: rest => if isPlain c && c ≠ '\\' then before (some c) (basic rest) else none

def literal : List Char → Option (List Char × List Char)
  | [] => none
  | c :: rest =>
    if c = '\'' then some ([], rest)
    else if isPlain c then before (some c) (literal rest)
    else none

/-- Whether the rest of the line is blank. -/
def lineEnds (s : List Char) : Bool :=
  match s.dropWhile isBlank with
  | '\n' :: _ => true
  | '\r' :: '\n' :: _ => true
  | _ => false

/-- Text over several lines between tripled double quotes. A backslash
at the end of a line removes the blanks and line ends that follow, which
is what `skipping` stands for. Up to two quotes may stand before the
closing ones. -/
def basicLines : (skipping : Bool) → List Char → Option (List Char × List Char)
  | _, [] => none
  | true, ' ' :: rest => basicLines true rest
  | true, '\t' :: rest => basicLines true rest
  | true, '\n' :: rest => basicLines true rest
  | true, '\r' :: '\n' :: rest => basicLines true rest
  | _, '"' :: '"' :: '"' :: '"' :: '"' :: rest => some (['"', '"'], rest)
  | _, '"' :: '"' :: '"' :: '"' :: rest => some (['"'], rest)
  | _, '"' :: '"' :: '"' :: rest => some ([], rest)
  | _, '\\' :: 'x' :: a :: b :: rest => before (codePoint? [a, b]) (basicLines false rest)
  | _, '\\' :: 'u' :: a :: b :: c :: d :: rest =>
    before (codePoint? [a, b, c, d]) (basicLines false rest)
  | _, '\\' :: 'U' :: a :: b :: c :: d :: e :: f :: g :: h :: rest =>
    before (codePoint? [a, b, c, d, e, f, g, h]) (basicLines false rest)
  | _, '\\' :: c :: rest =>
    if lineEnds (c :: rest) then
      if isBlank c || c = '\n' || c = '\r' then basicLines true rest else none
    else before (shortEscape? c) (basicLines false rest)
  | _, '\r' :: '\n' :: rest => before (some '\r') (before (some '\n') (basicLines false rest))
  | _, c :: rest =>
    if c = '\n' || (isPlain c && c ≠ '\\') then before (some c) (basicLines false rest) else none

/-- Text over several lines between tripled single quotes, up to two of
which may stand before the closing ones. -/
def literalLines : List Char → Option (List Char × List Char)
  | [] => none
  | '\'' :: '\'' :: '\'' :: '\'' :: '\'' :: rest => some (['\'', '\''], rest)
  | '\'' :: '\'' :: '\'' :: '\'' :: rest => some (['\''], rest)
  | '\'' :: '\'' :: '\'' :: rest => some ([], rest)
  | '\r' :: '\n' :: rest => before (some '\r') (before (some '\n') (literalLines rest))
  | c :: rest =>
    if c = '\n' || isPlain c then before (some c) (literalLines rest) else none

/-- A line end just after opening quotes does not belong to the text. -/
def afterFirstLineEnd : List Char → List Char
  | '\n' :: rest => rest
  | '\r' :: '\n' :: rest => rest
  | s => s

/-- Quoted text of any form, from its opening quotes on. -/
def quoted : List Char → Option (List Char × List Char)
  | '"' :: '"' :: '"' :: rest => basicLines false (afterFirstLineEnd rest)
  | '"' :: rest => basic rest
  | '\'' :: '\'' :: '\'' :: rest => literalLines (afterFirstLineEnd rest)
  | '\'' :: rest => literal rest
  | _ => none

end FormLease.Toml
