import FormLease.Journal.Filter
import FormLease.Text.Json
import FormLease.Text.Quoted

/-!
# Lines of the log

What a process does is told as entries: a scope is entered, something is
recorded, the scope is left. Lines are what of it is heard. Each line
knows the scopes it is part of, and where the ends of scopes are told,
the end of a scope is a line of its own. A line is laid out as text or
as an object.
-/

namespace FormLease.Journal

structure Scope where
  name : String
  target : String
  fields : Fields
  deriving DecidableEq

inductive Entry where
  | opened (scope : Scope)
  | record (record : Record)
  | closed
  deriving DecidableEq

structure Line where
  record : Record
  /-- The scopes it is part of, outermost first. -/
  scopes : List Scope
  /-- The scope whose end it tells. -/
  ending : Option Scope
  deriving DecidableEq

/-! ## What is heard -/

/-- A scope that is entered: whether it is heard, and to which levels it
opens the ears. -/
structure Entered where
  scope : Scope
  heard : Bool
  opened : List Limit

namespace Scope

def subject (s : Scope) : Subject := ⟨.info, s.target, some s.name, s.fields.map (·.1)⟩

def plainFields (s : Scope) : List (String × String) :=
  s.fields.map fun (name, value) => (name, value.plain)

end Scope

/-- The field of a record that holds its message. -/
def messageField : String := "message"

def Record.subject (r : Record) : Subject :=
  ⟨r.level, r.target, none, messageField :: r.fields.map (·.1)⟩

/-- The scopes that are heard, outermost first. -/
def heardScopes (entered : List Entered) : List Scope :=
  ((entered.filter Entered.heard).map Entered.scope).reverse

/-- The line of a scope's end. -/
def endLine (outer : List Entered) (e : Entered) : Line :=
  ⟨⟨.info, e.scope.target, "close", []⟩, heardScopes outer, some e.scope⟩

/-- The lines heard of some entries, within scopes that are already
entered, innermost first. -/
def lines (filter : Filter) (tellEnds : Bool) : (entered : List Entered) → List Entry → List Line
  | _, [] => []
  | entered, .opened scope :: rest =>
    let heard := filter.hears (entered.flatMap Entered.opened) scope.subject
    let opened := if heard then filter.opened scope.subject scope.plainFields else []
    lines filter tellEnds (⟨scope, heard, opened⟩ :: entered) rest
  | entered, .record r :: rest =>
    let after := lines filter tellEnds entered rest
    if filter.hears (entered.flatMap Entered.opened) r.subject then
      ⟨r, heardScopes entered, none⟩ :: after
    else after
  | entered, .closed :: rest =>
    let after := lines filter tellEnds (entered.drop 1) rest
    match entered with
    | e :: outer => if e.heard && tellEnds then endLine outer e :: after else after
    | [] => after

/-! ## Layout -/

/-- A character of a message within a line of text. Those that a terminal
may take for the beginning of a command are shown by their number. -/
def shownChar (c : Char) : List Char :=
  if ['\x07', '\x08', '\x0c', '\x1b', '\x7f'].contains c then
    '\\' :: 'x' :: Text.hexByte c.toNat.toUInt8
  else if 0x80 ≤ c.toNat && c.toNat ≤ 0x9f then
    '\\' :: 'u' :: '\x7b' :: Text.hexDigits c.toNat ++ ['\x7d']
  else [c]

def Record.shownMessage (r : Record) : String := String.ofList (r.message.toList.flatMap shownChar)

/-- A value within a line of text. -/
def Value.inText : Value → String
  | captured s => Text.quoted s
  | v => v.plain

def fieldsText (fields : Fields) : List String :=
  fields.map fun (name, value) => name ++ "=" ++ value.inText

def Scope.text (s : Scope) : String :=
  s.name
    ++ (if s.fields = [] then "" else "\x7b" ++ " ".intercalate (fieldsText s.fields) ++ "\x7d")
    ++ ":"

/-- A value within an object. -/
def Value.inObject : Value → String
  | text s | captured s => Text.json s
  | v => v.plain

/-- An object of members that are laid out already. -/
def object (members : List (String × String)) : String :=
  "\x7b" ++ ",".intercalate (members.map fun (name, value) => Text.json name ++ ":" ++ value) ++ "\x7d"

def fieldsObject (fields : Fields) : List (String × String) :=
  fields.map fun (name, value) => (name, value.inObject)

def Scope.object (s : Scope) : String :=
  Journal.object (fieldsObject s.fields ++ [("name", Text.json s.name)])

namespace Line

def text (l : Line) : String :=
  let scopes := String.join (l.scopes.map Scope.text)
  l.record.level.name ++ " " ++ (if l.scopes = [] then "" else scopes ++ " ") ++ l.record.target
    ++ ": " ++ " ".intercalate (l.record.shownMessage :: fieldsText l.record.fields)

def object (l : Line) : String :=
  let fields := (messageField, Text.json l.record.message) :: fieldsObject l.record.fields
  let scopes :=
    match l.ending <|> l.scopes.getLast? with
    | none => []
    | some innermost =>
      [("span", innermost.object),
        ("spans", "[" ++ ",".intercalate (l.scopes.map Scope.object) ++ "]")]
  Journal.object ([("level", Text.json l.record.level.name), ("fields", Journal.object fields),
    ("target", Text.json l.record.target)] ++ scopes)

end Line

end FormLease.Journal
