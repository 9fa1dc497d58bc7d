import FormLease.Settings.Tree
import FormLease.Fault.Settings

/-!
# Typed readings

What a settings tree means where a value of a certain type is wanted.
The readings are generous: a switch may be a number or a word, a number
may be a word for a switch, and every scalar has a text. What cannot be
read so is refused with the key it stands under.
-/

namespace FormLease.Settings

/-- How a message shows a value of the wrong type. -/
def Tree.shown : Tree → String
  | .leaf .unit _ => "unit value"
  | .leaf (.flag b) _ => "boolean `" ++ toString b ++ "`"
  | .leaf (.integer n) _ => "64-bit integer `" ++ toString n ++ "`"
  | .leaf (.real x) _ => "floating point `" ++ x.text ++ "`"
  | .leaf (.text s) _ => "string " ++ Text.quoted s
  | .list _ _ => "sequence"
  | .table _ _ => "map"

def Tree.origin : Tree → Option String
  | .leaf _ origin | .list _ origin | .table _ origin => origin

/-- The fault of a value that is not what the key wants. -/
def Tree.misfit (t : Tree) (expected key : String) : SettingsFault :=
  .mistyped t.shown expected key t.origin

/-- What is wanted under a key: the value a tree gives, or why not. -/
abbrev Reading (α : Type) := (key : String) → Tree → Except SettingsFault α

namespace Reading

def text : Reading String
  | _, .leaf (.flag b) _ => .ok (toString b)
  | _, .leaf (.integer n) _ => .ok (toString n)
  | _, .leaf (.real x) _ => .ok x.text
  | _, .leaf (.text s) _ => .ok s
  | key, t => .error (t.misfit "a string" key)

/-- The word for a switch, as written in many ways. -/
def switchWord? (s : String) : Option Bool :=
  match s with
  | "true" | "on" | "yes" => some true
  | "false" | "off" | "no" => some false
  | _ => none

/-- A number of 64 bits without a sign. -/
def word : Reading Nat
  | key, .leaf (.integer n) origin =>
    if 0 ≤ n then .ok n.toNat
    else
      .error ((Tree.leaf (.integer n) origin).misfit "an unsigned 64 bit or less integer" key)
  | _, .leaf (.flag b) _ => .ok b.toNat
  | _, .leaf (.real x) _ => .ok x.toWord
  | key, .leaf (.text s) origin =>
    match (switchWord? (Text.lower s)).map Bool.toNat <|> Text.natural? 64 s with
    | some n => .ok n
    | none => .error ((Tree.leaf (.text s) origin).misfit "an integer" key)
  | key, t => .error (t.misfit "an integer" key)

/-- A number without a sign that fits so many bits. -/
def unsigned (bits : Nat) : Reading Nat := fun key t => do
  let n ← word key t
  if n < 1 <<< bits then .ok n
  else
    .error (.mistyped ("64-bit unsigned integer `" ++ toString n ++ "`")
      ("an unsigned " ++ toString bits ++ " bit integer") key none)

def switch : Reading Bool
  | _, .leaf (.flag b) _ => .ok b
  | _, .leaf (.integer n) _ => .ok (n ≠ 0)
  | _, .leaf (.real x) _ => .ok (!x.isZero)
  | key, .leaf (.text s) origin =>
    match Text.lower s with
    | "1" => .ok true
    | "0" => .ok false
    | lower =>
      match switchWord? lower with
      | some b => .ok b
      | none => .error ((Tree.leaf (.text lower) origin).misfit "a boolean" key)
  | key, t => .error (t.misfit "a boolean" key)

/-- One of some named choices: its name, or a table with that name as its
only key. `kind` is how messages call the choices. -/
def choice {α : Type} (kind : String) (named? : String → Option α) : Reading α := fun key t =>
  let pick (name : String) : Except SettingsFault α :=
    match named? name with
    | some a => .ok a
    | none =>
      .error (.refused ("enum " ++ kind ++ " does not have variant constructor " ++ name) key)
  match t with
  | .leaf (.text name) _ => pick name
  | .table [(name, _)] _ => pick name
  | _ =>
    .error (.refused ("value of enum " ++ kind
      ++ " should be represented by either string or table with exactly one key") key)

end Reading

/-! ## Sections -/

/-- A section of the settings, as far as some source mentions it. It may
be given by a table, or by a list of its fields in order. -/
structure Section where
  key : String
  /-- How messages call what is wanted under the key. -/
  kind : String
  given : Option Tree

namespace Section

/-- How a message shows a scalar in place of a section. -/
def shown : Scalar → String
  | .unit => "unit value"
  | .flag b => "boolean `" ++ toString b ++ "`"
  | .integer n => "integer `" ++ toString n ++ "`"
  | .real x => "floating point `" ++ x.pointedText ++ "`"
  | .text s => "string " ++ Text.quoted s

/-- The field of a section with this position and name; a field that is
not given has its usual value. -/
def field {α : Type} (s : Section) (position : Nat) (name : String) (read : Reading α)
    (usual : α) : Except SettingsFault α :=
  match s.given with
  | none => .ok usual
  | some (.table entries _) =>
    match Tree.findIn name entries with
    | some t => read (s.key ++ "." ++ name) t
    | none => .ok usual
  | some (.list items _) =>
    match items[position]? with
    | some t => read (s.key ++ "[" ++ toString position ++ "]") t
    | none => .ok usual
  | some (.leaf value _) =>
    .error (.refused ("invalid type: " ++ shown value ++ ", expected struct " ++ s.kind) s.key)

end Section

end FormLease.Settings
