import FormLease.Toml.Value

/-!
# Tables under construction

While a document is read its tables are still open to more keys, but
only in some ways: a table is headed at most once, a table made by a
dotted key is never headed, one that is headed does not grow by dotted
keys from outside, and nothing grows that was given as a value. A `Draft` remembers how each table came about, and every
function here fails where the document breaks those rules.
-/

namespace FormLease.Toml

inductive Draft where
  | value (value : Value)
  /-- `implied` until a header names the table; `dotted` if a dotted key
  made it. -/
  | table (implied dotted : Bool) (entries : List (String × Draft))
  /-- Tables under one repeated header, newest first. -/
  | tables (newest : List (String × Draft)) (older : List (List (String × Draft)))

abbrev Entries := List (String × Draft)

namespace Draft

def find? (key : String) (entries : Entries) : Option Draft := entries.lookup key

/-- The entries with a key's value replaced, or added at the end. -/
def put (key : String) (value : Draft) : Entries → Entries
  | [] => [(key, value)]
  | (k, v) :: rest => if k = key then (k, value) :: rest else (k, v) :: put key value rest

/-- Changes the table at a path, making the tables on the way that are
not there. The change is told whether the table is only implied. -/
def alter (byDottedKey : Bool) (change : (implied : Bool) → Entries → Option Entries) :
    (path : List String) → (implied : Bool) → Entries → Option Entries
  | [], implied, entries => change implied entries
  | key :: path, _, entries =>
    match find? key entries with
    | none => do
      let inner ← alter byDottedKey change path true []
      some (put key (.table true byDottedKey inner) entries)
    | some (.value _) => none
    | some (.tables newest older) => do
      let inner ← alter byDottedKey change path false newest
      some (put key (.tables inner older) entries)
    | some (.table implied dotted old) => do
      guard (!(byDottedKey && !implied))
      let inner ← alter byDottedKey change path implied old
      some (put key (.table implied dotted inner) entries)

/-- Gives a new key of a table its value. A key with dots may only add
to a table that no header has named. -/
def insert (path : List String) (key : String) (value : Value) (entries : Entries) :
    Option Entries :=
  let change (implied : Bool) (entries : Entries) : Option Entries := do
    guard (implied || path.isEmpty)
    guard (find? key entries).isNone
    some (put key (.value value) entries)
  alter true change path false entries

def openTable (path : List String) (key : String) (entries : Entries) : Option Entries :=
  let change (_ : Bool) (entries : Entries) : Option Entries :=
    match find? key entries with
    | none => some (put key (.table false false []) entries)
    | some (.table true false inner) => some (put key (.table false false inner) entries)
    | some _ => none
  alter false change path false entries

/-- Opens one more table of a repeated header. -/
def openNext (path : List String) (key : String) (entries : Entries) : Option Entries :=
  let change (_ : Bool) (entries : Entries) : Option Entries :=
    match find? key entries with
    | none => some (put key (.tables [] []) entries)
    | some (.tables newest older) => some (put key (.tables [] (newest :: older)) entries)
    | some _ => none
  alter false change path false entries

mutual

def finished : Draft → Value
  | .value v => v
  | .table _ _ entries => .table (finishedEntries entries)
  | .tables newest older => .array (finishedTables older [.table (finishedEntries newest)])

def finishedEntries : Entries → List (String × Value)
  | [] => []
  | (key, draft) :: rest => (key, draft.finished) :: finishedEntries rest

/-- Finished tables put before others, the last of them first. -/
def finishedTables : List Entries → List Value → List Value
  | [], done => done
  | entries :: rest, done => finishedTables rest (.table (finishedEntries entries) :: done)

end

end Draft

end FormLease.Toml
