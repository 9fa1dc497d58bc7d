import FormLease.Toml.DateTime
import FormLease.Toml.Draft
import FormLease.Toml.Number
import FormLease.Toml.Quoted

/-!
# Documents

Reads a document: lines of keys with their values and headers that say
which table the keys below them belong to. Values nest and keys have
parts to a limit only. Beside it the items of a value are read with fuel,
of which the length of the document is always enough, because every item
takes a character at least.
-/

namespace FormLease.Toml

/-! ## Blanks, comments and line ends -/

def skipBlanks (s : List Char) : List Char := s.dropWhile isBlank

/-- A comment, if there is one, up to the end of its line. -/
def skipComment : List Char → Option (List Char)
  | '#' :: s =>
    let rest := s.dropWhile isPlain
    match rest with
    | [] | '\n' :: _ | '\r' :: '\n' :: _ => some rest
    | _ => none
  | s => some s

/-- What follows the end of the line; the last line needs none. -/
def endLine (s : List Char) : Option (List Char) := do
  match ← skipComment (skipBlanks s) with
  | [] => some []
  | '\n' :: rest => some rest
  | '\r' :: '\n' :: rest => some rest
  | _ => none

/-- Skips blanks, comments and line ends; `fuel` bounds the lines. -/
def skipLines : (fuel : Nat) → List Char → Option (List Char)
  | 0, s => some (skipBlanks s)
  | fuel + 1, s => do
    match ← skipComment (skipBlanks s) with
    | '\n' :: rest => skipLines fuel rest
    | '\r' :: '\n' :: rest => skipLines fuel rest
    | rest => some rest

/-! ## Keys -/

def isBareKey (c : Char) : Bool := c.isAlphanum || c = '_' || c = '-'

/-- One part of a key: bare, or in quotes on one line. -/
def keyPart (s : List Char) : Option (String × List Char) :=
  match s with
  | '"' :: rest => (basic rest).map fun (k, rest) => (String.ofList k, rest)
  | '\'' :: rest => (literal rest).map fun (k, rest) => (String.ofList k, rest)
  | _ =>
    let name := s.takeWhile isBareKey
    if name = [] then none else some (String.ofList name, s.dropWhile isBareKey)

/-- How many parts a key may have, and how deep values may nest. -/
def depthLimit : Nat := 80

/-- A key of at most so many parts: those before the last one, and that.
Blanks may stand around the dots and after the key. -/
def keyWithin : (parts : Nat) → List Char → Option ((List String × String) × List Char)
  | 0, _ => none
  | parts + 1, s => do
    let (part, rest) ← keyPart s
    match skipBlanks rest with
    | '.' :: rest =>
      let ((path, last), rest) ← keyWithin parts (skipBlanks rest)
      some ((part :: path, last), rest)
    | rest => some (([], part), rest)

def key (s : List Char) : Option ((List String × String) × List Char) := keyWithin depthLimit s

/-! ## Values -/

def endsWord (c : Char) : Bool :=
  isBlank c || c = '\n' || c = '\r' || c = ',' || c = ']' || c = '\x7d' || c = '#'

def word? (w : List Char) : Option Value :=
  if w = "true".toList then some (.boolean true)
  else if w = "false".toList then some (.boolean false)
  else
    match dateTime? w with
    | some normal => some (.dateTime normal)
    | none => number w

/-- A value without quotes. A blank may stand between a date and a time. -/
def scalar (s : List Char) : Option (Value × List Char) := do
  let word := s.takeWhile (!endsWord ·)
  let rest := s.dropWhile (!endsWord ·)
  let both : Option (Value × List Char) := do
    match rest with
    | ' ' :: after =>
      guard (date? word).isSome
      let normal ← dateTime? (word ++ ' ' :: after.takeWhile (!endsWord ·))
      some (.dateTime normal, after.dropWhile (!endsWord ·))
    | _ => none
  match both with
  | some r => some r
  | none => (word? word).map (·, rest)

mutual

/-- A value in which others may nest to a depth. -/
def value : (fuel depth : Nat) → List Char → Option (Value × List Char)
  | 0, _, _ => none
  | fuel + 1, depth, s =>
    match s, depth with
    | '"' :: _, _ | '\'' :: _, _ =>
      (quoted s).map fun (t, rest) => (.text (String.ofList t), rest)
    | '[' :: rest, depth + 1 =>
      (arrayItems fuel depth rest).map fun (items, rest) => (.array items, rest)
    | '\x7b' :: rest, depth + 1 =>
      (inlineEntries fuel depth [] rest).map fun (entries, rest) =>
        (.table (Draft.finishedEntries entries), rest)
    | '[' :: _, 0 | '\x7b' :: _, 0 => none
    | _, _ => scalar s

/-- The items of an array, and what follows its closing bracket. -/
def arrayItems : (fuel depth : Nat) → List Char → Option (List Value × List Char)
  | 0, _, _ => none
  | fuel + 1, depth, s => do
    let s ← skipLines s.length s
    match s with
    | ']' :: rest => some ([], rest)
    | _ =>
      let (item, s) ← value fuel depth s
      let s ← skipLines s.length s
      match s with
      | ']' :: rest => some ([item], rest)
      | ',' :: rest =>
        let (items, rest) ← arrayItems fuel depth rest
        some (item :: items, rest)
      | _ => none

/-- The entries of a table in braces after the ones already read, and
what follows the closing brace. Line ends may stand between all parts
but those of a key. -/
def inlineEntries : (fuel depth : Nat) → Entries → List Char → Option (Entries × List Char)
  | 0, _, _, _ => none
  | fuel + 1, depth, entries, s => do
    let s ← skipLines s.length s
    match s with
    | '\x7d' :: rest => some (entries, rest)
    | _ =>
      let ((path, last), s) ← key s
      let s ← expect '=' (← skipLines s.length s)
      let (v, s) ← value fuel depth (← skipLines s.length s)
      let entries ← Draft.insert path last v entries
      let s ← skipLines s.length s
      match s with
      | '\x7d' :: rest => some (entries, rest)
      | ',' :: rest => inlineEntries fuel depth entries rest
      | _ => none

end

/-! ## Lines -/

/-- The root table so far and the path of the table that keys belong
to. -/
structure Reading where
  root : Entries
  current : List String

/-- A header between single brackets, after the opening one. -/
def header (r : Reading) (s : List Char) : Option (Reading × List Char) := do
  let ((path, last), s) ← key (skipBlanks s)
  let rest ← expect ']' s
  let root ← Draft.openTable path last r.root
  some (⟨root, path ++ [last]⟩, rest)

/-- A repeated header between double brackets, after the opening ones. -/
def repeatedHeader (r : Reading) (s : List Char) : Option (Reading × List Char) := do
  let ((path, last), s) ← key (skipBlanks s)
  let s ← expect ']' s
  let rest ← expect ']' s
  let root ← Draft.openNext path last r.root
  some (⟨root, path ++ [last]⟩, rest)

def keyValue (r : Reading) (s : List Char) : Option (Reading × List Char) := do
  let ((path, last), s) ← key s
  let s ← expect '=' s
  let (v, rest) ← value s.length depthLimit (skipBlanks s)
  let root ←
    Draft.alter false (fun _ entries => Draft.insert path last v entries) r.current false r.root
  some (⟨root, r.current⟩, rest)

/-- One line: a header, a key with its value, or neither. -/
def line (r : Reading) (s : List Char) : Option (Reading × List Char) := do
  let s := skipBlanks s
  let (r, rest) ←
    match s with
    | [] | '\n' :: _ | '\r' :: _ | '#' :: _ => some (r, s)
    | '[' :: '[' :: rest => repeatedHeader r rest
    | '[' :: rest => header r rest
    | _ => keyValue r s
  some (r, ← endLine rest)

/-- All lines; `fuel` bounds their number. -/
def lines : (fuel : Nat) → Reading → List Char → Option Reading
  | _, r, [] => some r
  | 0, _, _ => none
  | fuel + 1, r, s => do
    let (r, rest) ← line r s
    lines fuel r rest

/-- The table that a document describes; a mark for the order of bytes
at its beginning is ignored. -/
def document? (s : String) : Option (List (String × Value)) :=
  let body :=
    match s.toList with
    | '\ufeff' :: rest => rest
    | chars => chars
  (lines body.length ⟨[], []⟩ body).map fun r => Draft.finishedEntries r.root

end FormLease.Toml
