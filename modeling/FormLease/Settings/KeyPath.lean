import FormLease.Settings.Tree

/-!
# Key paths

The name of a setting may be a path, `lock.tries` or `lock[1]`: parts of
ASCII letters, digits, `_` and `-`, joined by dots, and positions in
brackets. A name that does not read as one is a single plain key.
-/

namespace FormLease.Settings

inductive KeyPath.Step where
  | key (name : String)
  /-- A position in a list; negative ones count from its end. -/
  | index (i : Int)
  deriving DecidableEq

structure KeyPath where
  root : String
  steps : List KeyPath.Step
  deriving DecidableEq

namespace KeyPath

def isNameChar (c : Char) : Bool := c.isAlphanum || c = '_' || c = '-'

/-- A name and what follows it. -/
def name? (s : List Char) : Option (String × List Char) :=
  let name := s.takeWhile isNameChar
  if name = [] then none else some (String.ofList name, s.dropWhile isNameChar)

def skipSpaces (s : List Char) : List Char := s.dropWhile fun c => c = ' ' || c = '\t'

/-- A position with its closing bracket, and what follows that. It must
fit a signed word of 64 bits. -/
def index? (s : List Char) : Option (Int × List Char) := do
  let s := skipSpaces s
  let (negative, s) :=
    match s with
    | '-' :: rest => (true, rest)
    | rest => (false, rest)
  let n ← Text.digits? (s.takeWhile Char.isDigit)
  let i : Int := if negative then -n else n
  guard (Text.fitsSigned 64 i)
  match skipSpaces (s.dropWhile Char.isDigit) with
  | ']' :: rest => some (i, rest)
  | _ => none

/-- The steps after a root; `fuel` bounds their number. -/
def steps? : (fuel : Nat) → List Char → Option (List Step)
  | _, [] => some []
  | 0, _ => none
  | fuel + 1, '.' :: s => do
    let (name, rest) ← name? s
    (steps? fuel rest).map (.key name :: ·)
  | fuel + 1, '[' :: s => do
    let (i, rest) ← index? s
    (steps? fuel rest).map (.index i :: ·)
  | _, _ => none

def read? (s : String) : Option KeyPath := do
  let (root, rest) ← name? s.toList
  let steps ← steps? rest.length rest
  some ⟨root, steps⟩

/-- The path that a name stands for. -/
def ofName (s : String) : KeyPath := (read? s).getD ⟨s, []⟩

example : ofName "lock.tries" = ⟨"lock", [.key "tries"]⟩ := by decide +kernel
example : ofName "lock.tries." = ⟨"lock.tries.", []⟩ := by decide +kernel

end KeyPath

namespace Tree

/-- Changes the item at a position, after the list was made long enough
at the end, or at the beginning for a position before it. -/
def alterItem (i : Int) (change : Tree → Tree) (items : List Tree) : List Tree :=
  let position := if 0 ≤ i then i else items.length + i
  if 0 ≤ position then
    let n := position.toNat
    (items ++ List.replicate (n + 1 - items.length) unit).modify n change
  else
    (List.replicate (-position).toNat unit ++ items).modify 0 change

/-- Changes what stands at the end of some steps. Whatever is not a table
or a list where one is needed gives way to it. -/
def alter (change : Tree → Tree) : List KeyPath.Step → Tree → Tree
  | [], t => change t
  | .key name :: steps, t =>
    let (entries, origin) := t.asTable
    .table (putIn name (alter change steps ((findIn name entries).getD unit)) entries) origin
  | .index i :: steps, t =>
    let (items, origin) := t.asList
    .list (alterItem i (alter change steps) items) origin

/-- Lays a value over what stands at a path. -/
def put (t : Tree) (path : KeyPath) (value : Tree) : Tree :=
  t.alter (merge · value) (.key path.root :: path.steps)

/-- Lays a whole source over a tree, name by name. -/
def overlay (t : Tree) (source : List (String × Tree)) : Tree :=
  source.foldl (fun t (name, value) => t.put (KeyPath.ofName name) value) t

end Tree

end FormLease.Settings
