import FormLease.Toml.Value

/-!
# Settings trees

Settings before they are given types: scalars, lists and tables, each
with the source it came from if that is known. `Tree.merge` lays a newer
tree over an older one: tables are joined key by key, and everything
else replaces what was there. `Tree.put` does so at a key path.
-/

namespace FormLease.Settings

inductive Scalar where
  | unit
  | flag (b : Bool)
  | integer (n : Int)
  | real (x : Binary64)
  | text (s : String)
  deriving DecidableEq

inductive Tree where
  | leaf (value : Scalar) (origin : Option String)
  | list (items : List Tree) (origin : Option String)
  | table (entries : List (String × Tree)) (origin : Option String)

instance : Inhabited Tree := ⟨.leaf .unit none⟩

namespace Tree

def unit : Tree := .leaf .unit none

def emptyTable : Tree := .table [] none

def findIn (key : String) : List (String × Tree) → Option Tree
  | [] => none
  | (k, t) :: rest => if k = key then some t else findIn key rest

/-- The entries with a key's value replaced, or added at the end. -/
def putIn (key : String) (value : Tree) : List (String × Tree) → List (String × Tree)
  | [] => [(key, value)]
  | (k, t) :: rest => if k = key then (k, value) :: rest else (k, t) :: putIn key value rest

/-- The entries of a table, and where it came from; anything else gives
way to an empty table of no origin. -/
def asTable : Tree → List (String × Tree) × Option String
  | .table entries origin => (entries, origin)
  | _ => ([], none)

/-- The items of a list, likewise. -/
def asList : Tree → List Tree × Option String
  | .list items origin => (items, origin)
  | _ => ([], none)

mutual

/-- A newer tree laid over an older one. -/
def merge (old : Tree) : Tree → Tree
  | .table entries _ =>
    let (base, origin) := old.asTable
    .table (mergeEntries base entries) origin
  | .leaf value origin => .leaf value origin
  | .list items origin => .list items origin

def mergeEntries (base : List (String × Tree)) : List (String × Tree) → List (String × Tree)
  | [] => base
  | (key, value) :: rest =>
    mergeEntries (putIn key (merge ((findIn key base).getD unit) value) base) rest

end

mutual

def ofToml (origin : String) : Toml.Value → Tree
  | .text s => .leaf (.text s) (some origin)
  | .integer n => .leaf (.integer n) (some origin)
  | .float x => .leaf (.real x) (some origin)
  | .boolean b => .leaf (.flag b) (some origin)
  | .dateTime s => .leaf (.text s) (some origin)
  | .array items => .list (ofItems origin items) (some origin)
  | .table entries => .table (ofEntries origin entries) (some origin)

def ofItems (origin : String) : List Toml.Value → List Tree
  | [] => []
  | v :: rest => ofToml origin v :: ofItems origin rest

def ofEntries (origin : String) : List (String × Toml.Value) → List (String × Tree)
  | [] => []
  | (key, v) :: rest => (key, ofToml origin v) :: ofEntries origin rest

end

end Tree

end FormLease.Settings
