import FormLease.Text.Cut

/-!
# Folders

Where settings files are looked for. A folder answers a path with the
text of the file there; `Folder.ofFiles` is the folder that holds some
files and no others.
-/

namespace FormLease.Settings

/-- The text of the file at a path, if there is one. -/
abbrev Folder := (path : String) → Option String

namespace Folder

def isAbsolute (path : String) : Bool := path.toList.head? = some '/'

def segments (path : String) : List String :=
  ((Text.pieces '/' path.toList).map String.ofList).filter fun s => s ≠ "" && s ≠ "."

/-- A path taken from within a folder. -/
def within (folder path : String) : String :=
  if isAbsolute path || folder = "" then path else folder ++ "/" ++ path

/-- A path without the names that go nowhere. -/
def normal (path : String) : String :=
  (if isAbsolute path then "/" else "") ++ "/".intercalate (segments path)

def lastName (path : String) : String := (segments path).getLast?.getD ""

/-- Whether some file is in the folder that a list of names leads to. -/
def leadsOn (files : List (String × String)) (names : List String) : Bool :=
  files.any fun file =>
    names.isPrefixOf (segments file.1) && names.length < (segments file.1).length

/-- The names a path ends at after every step back out of a folder, from
the folder the names so far lead to; nothing if there is no such
folder. -/
def resolve (files : List (String × String)) : (sofar : List String) → List String → Option (List String)
  | sofar, [] => some sofar
  | sofar, name :: rest =>
    if name = ".." then
      if sofar ≠ [] && leadsOn files sofar then resolve files sofar.dropLast rest else none
    else resolve files (sofar ++ [name]) rest

def ofFiles (files : List (String × String)) : Folder := fun path => do
  guard (!isAbsolute path)
  let names ← resolve files [] (segments path)
  (files.find? fun file => segments file.1 = names).map (·.2)

end Folder

end FormLease.Settings
