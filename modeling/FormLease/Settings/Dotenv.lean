import FormLease.Text.Alphanumeric

/-!
# Variable files

A process has variables, and a file of assignments may add to them. It
only adds: a variable that is already set keeps its value, so of two
assignments the first one counts. The first line that cannot be read
ends the reading, and what was set before it stays.

A value may stand between single quotes, as it is, or between double
quotes, with escapes; both may go on over several lines. Outside single
quotes `$name` and `${name}` stand for the value of another variable.
-/

namespace FormLease.Settings

/-- The variables of a process; of two with one name the first counts. -/
abbrev Variables := List (String × String)

namespace Dotenv

/-! ## Logical lines -/

/-- Where a reader of lines stands within quotes, escapes and blanks. -/
inductive Mode where
  | plain | escape | strong | strongEscape | weak | weakEscape | space | comment
  deriving DecidableEq

def Mode.next : Mode → Char → Mode
  | .space, '#' => .comment
  | .space, '\\' | .plain, '\\' => .escape
  | .space, '"' | .plain, '"' => .weak
  | .space, '\'' | .plain, '\'' => .strong
  | .space, _ => .plain
  | .plain, c => if Text.blank c && c ≠ '\n' && c ≠ '\r' then .space else .plain
  | .escape, _ => .plain
  | .weak, '\\' => .weakEscape
  | .weak, '"' => .plain
  | .weak, _ => .weak
  | .weakEscape, _ => .weak
  | .strong, '\\' => .strongEscape
  | .strong, '\'' => .plain
  | .strong, _ => .strong
  | .strongEscape, _ => .strong
  | .comment, _ => .comment

/-- The mode after a line, and the line without a comment at its end. -/
def scan : Mode → List Char → Mode × List Char
  | mode, [] => (mode, [])
  | mode, c :: rest =>
    let mode := mode.next c
    if mode = .comment then (.comment, [])
    else
      let (after, kept) := scan mode rest
      (after, c :: kept)

/-- The lines of a text, each with its line end. -/
def physicalLines : List Char → List (List Char)
  | [] => []
  | c :: rest =>
    if c = '\n' then [c] :: physicalLines rest
    else
      match physicalLines rest with
      | [] => [[c]]
      | line :: more => (c :: line) :: more

/-- A line without its line end. -/
def withoutEnd (line : List Char) : List Char :=
  match line.reverse with
  | '\n' :: '\r' :: rest => rest.reverse
  | '\n' :: rest => rest.reverse
  | _ => line

/-- Lines joined while quotes are open; nothing in place of a line that
the text ends within. -/
def logicalLines : (held : List Char) → Mode → List (List Char) → List (Option (List Char))
  | _, mode, [] => if mode = .plain then [] else [none]
  | held, mode, line :: rest =>
    if (Text.trimStart (held ++ line)).head? = some '#' then
      some [] :: logicalLines [] .plain rest
    else
      match scan mode line with
      | (.plain, _) => some (withoutEnd (held ++ line)) :: logicalLines [] .plain rest
      | (.comment, kept) => some (held ++ kept) :: logicalLines [] .plain rest
      | (mode, _) => logicalLines (held ++ line) mode rest

/-! ## Values -/

/-- How far a reader of a value is with the name of another variable. -/
inductive Naming where
  | none
  /-- After a dollar sign. -/
  | bare
  /-- Within braces. -/
  | braced
  deriving DecidableEq

structure ValueReader where
  strong : Bool := false
  weak : Bool := false
  escaped : Bool := false
  /-- Only blanks or a comment may follow. -/
  ended : Bool := false
  naming : Naming := .none
  /-- The name so far, newest character first. -/
  name : List Char := []
  /-- The value so far, newest character first. -/
  output : List Char := []

namespace ValueReader

def push (r : ValueReader) (c : Char) : ValueReader := { r with output := c :: r.output }

/-- Puts in the value of the variable named. -/
def substitute (lookup : String → String) (r : ValueReader) : ValueReader :=
  let value := lookup (String.ofList r.name.reverse)
  { r with output := value.toList.reverse ++ r.output, name := [] }

/-- A character after a dollar sign. -/
def bareName (lookup : String → String) (r : ValueReader) (c : Char) : ValueReader :=
  if c = '\x7b' && r.name = [] then { r with naming := .braced }
  else
    let r := r.substitute lookup
    if c = '$' then r else { r with naming := .none }.push c

/-- One more character; nothing if it may not stand there. -/
def step (lookup : String → String) (r : ValueReader) (c : Char) : Option ValueReader :=
  if r.ended then if c = ' ' || c = '\t' then some r else none
  else if r.escaped then
    let r := { r with escaped := false }
    match c with
    | '\\' | '\'' | '"' | '$' | ' ' => some (r.push c)
    | 'n' => some (r.push '\n')
    | _ => none
  else if r.strong then
    some (if c = '\'' then { r with strong := false } else r.push c)
  else if r.naming ≠ .none && Text.alphanumeric c then some { r with name := c :: r.name }
  else if r.naming = .bare then some (r.bareName lookup c)
  else if r.naming = .braced then
    some (if c = '\x7d' then { r with naming := .none }.substitute lookup
      else { r with name := c :: r.name })
  else if c = '$' then some { r with naming := .bare }
  else if r.weak then
    some (if c = '"' then { r with weak := false }
      else if c = '\\' then { r with escaped := true }
      else r.push c)
  else if c = '\'' then some { r with strong := true }
  else if c = '"' then some { r with weak := true }
  else if c = '\\' then some { r with escaped := true }
  else if c = ' ' || c = '\t' then some { r with ended := true }
  else some (r.push c)

/-- Reads to the end, or to a comment. -/
def run (lookup : String → String) : ValueReader → List Char → Option ValueReader
  | r, [] => some r
  | r, c :: rest =>
    if r.ended && c = '#' then some r
    else (r.step lookup c).bind (run lookup · rest)

end ValueReader

/-- The value that a text stands for. -/
def value? (lookup : String → String) (s : List Char) : Option String := do
  let r ← ValueReader.run lookup {} s
  guard (r.naming ≠ .braced && !r.strong && !r.weak)
  some (String.ofList (r.substitute lookup).output.reverse)

/-! ## Assignments -/

def isNameStart (c : Char) : Bool := c.isAlpha || c = '_'

def isNameChar (c : Char) : Bool := c.isAlphanum || c = '_' || c = '.'

/-- The name at the beginning, and what follows it and any blanks. -/
def name? (s : List Char) : Option (String × List Char) :=
  if (s.head?.elim false isNameStart) then
    some (String.ofList (s.takeWhile isNameChar), Text.trimStart (s.dropWhile isNameChar))
  else none

/-- What follows an equals sign. -/
def afterEquals : List Char → Option (List Char)
  | '=' :: rest => some rest
  | _ => none

/-- The name assigned to and the text of its value. The word `export` may
stand before the name, or be the name. -/
def assignment? (s : List Char) : Option (String × List Char) := do
  let (name, rest) ← name? s
  match afterEquals rest with
  | some rest => some (name, rest)
  | none =>
    guard (name = "export")
    let (name, rest) ← name? rest
    some (name, ← afterEquals rest)

/-- What a logical line says. -/
inductive Line where
  | nothing
  | assigned (name value : String)
  | bad

def readLine (lookup : String → String) (line : List Char) : Line :=
  let s := Text.trimStart (Text.trimEnd line)
  if s = [] || s.head? = some '#' then .nothing
  else
    match assignment? s with
    | none => .bad
    | some (name, rest) =>
      let rest := Text.trimStart rest
      if rest = [] || rest.head? = some '#' then .assigned name ""
      else
        match value? lookup rest with
        | some value => .assigned name value
        | none => .bad

def readLines : Variables → List (Option (List Char)) → Variables
  | vars, [] => vars
  | vars, none :: _ => vars
  | vars, some line :: rest =>
    match readLine (fun name => (vars.lookup name).getD "") line with
    | .nothing => readLines vars rest
    | .assigned name value =>
      readLines (if (vars.lookup name).isSome then vars else vars ++ [(name, value)]) rest
    | .bad => vars

/-- The variables with those of a file added. -/
def load (vars : Variables) (text : String) : Variables :=
  let chars :=
    match text.toList with
    | '\ufeff' :: rest => rest
    | chars => chars
  readLines vars (logicalLines [] .plain (physicalLines chars))

end Dotenv

end FormLease.Settings
