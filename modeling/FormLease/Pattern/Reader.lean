import FormLease.Pattern
import FormLease.Text.Alphanumeric
import FormLease.Text.Cut
import FormLease.Text.Hex

/-!
# Reading patterns

The usual way to write regular expressions, with flags, classes in
brackets and escapes. What would need the properties of characters
beyond ASCII is refused: letters of any case, digits, blanks and words,
unless the pattern says that it is about ASCII only. Such a pattern in
turn may not take single characters that it does not know. Counted
repetitions are refused, too: a pattern stands between braces, which
leave no room for others.
-/

namespace FormLease.Pattern

/-- How what follows is read. -/
structure Flags where
  anyCase : Bool := false
  multiLine : Bool := false
  dotAll : Bool := false
  lazy : Bool := false
  withReturns : Bool := false
  spaced : Bool := false
  unicode : Bool := true

namespace Flags

/-- The flags with one of them set, by its letter. -/
def set? (f : Flags) (letter : Char) (on : Bool) : Option Flags :=
  match letter with
  | 'i' => some { f with anyCase := on }
  | 'm' => some { f with multiLine := on }
  | 's' => some { f with dotAll := on }
  | 'U' => some { f with lazy := on }
  | 'R' => some { f with withReturns := on }
  | 'x' => some { f with spaced := on }
  | 'u' => some { f with unicode := on }
  | _ => none

/-- Reads flags up to a colon or a closing parenthesis, each at most
once; a minus sign turns those after it off. `seen` are the letters
before. -/
def read? (f : Flags) : (seen : List Char) → List Char → Option (Flags × List Char)
  | _, [] => none
  | seen, c :: s =>
    if c = ':' || c = ')' then
      if seen.head? = some '-' then none else some (f, c :: s)
    else if seen.contains c then none
    else if c = '-' then read? f (c :: seen) s
    else (f.set? c (!seen.contains '-')).bind fun f => read? f (c :: seen) s

def start (f : Flags) : Place :=
  if f.multiLine then if f.withReturns then .returnStart else .lineStart else .start

def finish (f : Flags) : Place :=
  if f.multiLine then if f.withReturns then .returnFinish else .lineFinish else .finish

/-- The set of a dot. -/
def dot? (f : Flags) : Option Charset :=
  if !f.unicode then none
  else if f.dotAll then some .all
  else if f.withReturns then some (.not (.either (.single '\n') (.single '\r')))
  else some (.not (.single '\n'))

/-- A set of ASCII characters, in any case if so asked. -/
def ascii (f : Flags) (set : Charset) : Charset := if f.anyCase then .anyCase set else set

def literal? (f : Flags) (c : Char) : Option Charset :=
  if f.anyCase && f.unicode then none else some (f.ascii (.single c))

end Flags

/-- Skips blanks and comments, where they count for nothing. -/
def skipSpace : (inComment : Bool) → List Char → List Char
  | _, [] => []
  | true, c :: s => skipSpace (c ≠ '\n') s
  | false, c :: s =>
    if Text.blank c then skipSpace false s else if c = '#' then skipSpace true s else c :: s

def skip (f : Flags) (s : List Char) : List Char := if f.spaced then skipSpace false s else s

/-! ## Escapes -/

inductive Escaped where
  | char (c : Char)
  | place (place : Place)
  | set (set : Charset)

def hexChar? (digits : Nat) (s : List Char) : Option (Char × List Char) := do
  guard (digits ≤ s.length)
  let code ← (s.take digits).foldlM (fun n c => (Text.hexValue? c.toLower).map (16 * n + ·)) 0
  if code.isValidChar then some (Char.ofNat code, s.drop digits) else none

/-- What a backslash and a letter stand for. -/
def letterEscape? (f : Flags) (c : Char) : Option Escaped :=
  let inAscii (e : Escaped) : Option Escaped := if f.unicode then none else some e
  match c with
  | 'a' => some (.char '\x07')
  | 'f' => some (.char '\x0c')
  | 't' => some (.char '\t')
  | 'n' => some (.char '\n')
  | 'r' => some (.char '\r')
  | 'v' => some (.char '\x0b')
  | 'A' => some (.place .start)
  | 'z' => some (.place .finish)
  | 'b' => inAscii (.place .wordEdge)
  | 'B' => inAscii (.place .noWordEdge)
  | '<' => inAscii (.place .wordStart)
  | '>' => inAscii (.place .wordFinish)
  | 'd' => inAscii (.set .digits)
  | 's' => inAscii (.set .spaces)
  | 'w' => inAscii (.set .wordChars)
  | _ => if c.isAlphanum || 0x80 ≤ c.toNat then none else some (.char c)

/-- What stands after a backslash. -/
def escaped? (f : Flags) : List Char → Option (Escaped × List Char)
  | [] => none
  | 'x' :: s => do
    let (c, s) ← hexChar? 2 s
    guard (f.unicode || c.toNat < 0x80)
    some (.char c, s)
  | 'u' :: s => (hexChar? 4 s).map fun (c, s) => (.char c, s)
  | 'U' :: s => (hexChar? 8 s).map fun (c, s) => (.char c, s)
  | c :: s => (letterEscape? f c).map (·, s)

/-! ## Classes -/

/-- A kind of ASCII characters within brackets, after `[:`. -/
def kind? (s : List Char) : Option (Charset × List Char) := do
  let (s, negated) :=
    match s with
    | '^' :: s => (s, true)
    | s => (s, false)
  let (name, s) ← Text.cut? [':'] s
  let set ← Charset.ofName? (String.ofList name)
  match s with
  | ']' :: s => some (if negated then .not set else set, s)
  | _ => none

/-- One item of a class: a character or a set. -/
def classItem? (f : Flags) : List Char → Option (Escaped × List Char)
  | [] => none
  | '\\' :: s => do
    match ← escaped? f s with
    | (.place _, _) => none
    | item => some item
  | c :: s => if f.unicode || c.toNat < 0x80 then some (.char c, s) else none

/-- Whether a minus sign at the beginning is no range's: it is the last
of a class or the first of two. -/
def endsItem (f : Flags) : List Char → Bool
  | '-' :: s =>
    match skip f s with
    | ']' :: _ | '-' :: _ => true
    | _ => false
  | _ => true

/-- A character, a range or a set. -/
def classRange? (f : Flags) (s : List Char) : Option (Charset × List Char) := do
  let (item, s) ← classItem? f s
  let s := skip f s
  if endsItem f s then
    match item with
    | .char c => some (f.ascii (.single c), s)
    | .set set => some (f.ascii set, s)
    | .place _ => none
  else
    let (last, s) ← classItem? f (skip f (s.drop 1))
    match item, last with
    | .char a, .char b => if a ≤ b then some (f.ascii (.range a b), s) else none
    | _, _ => none

/-- The minus signs at the beginning of a class, and a closing bracket
after the opening one, stand for themselves. -/
def classStart (f : Flags) (fresh : Bool) : (fuel : Nat) → List Char → Charset × List Char
  | fuel + 1, '-' :: s =>
    let (set, s) := classStart f false fuel (skip f s)
    (.either (.single '-') set, s)
  | _, ']' :: s => if fresh then (.single ']', s) else (.empty, ']' :: s)
  | _, s => (.empty, s)

mutual

/-- A class after its opening bracket. -/
def class? : (fuel : Nat) → Flags → List Char → Option (Charset × List Char)
  | 0, _, _ => none
  | fuel + 1, f, s => do
    guard (!(f.anyCase && f.unicode))
    let s := skip f s
    let (s, negated) :=
      match s with
      | '^' :: s => (skip f s, true)
      | s => (s, false)
    let (set, s) := classStart f true s.length s
    let (set, s) ← classItems fuel f id set s
    let set := if negated then .not set else set
    guard (f.unicode || !set.contains '\x80')
    some (set, s)

/-- The items of a class up to its closing bracket. `finish` joins what
is read to what stood before the last sign between sets. -/
def classItems : (fuel : Nat) → Flags → (finish : Charset → Charset) → Charset → List Char →
    Option (Charset × List Char)
  | 0, _, _, _, _ => none
  | fuel + 1, f, finish, set, s =>
    match skip f s with
    | [] => none
    | ']' :: s => some (finish set, s)
    | '&' :: '&' :: s => classItems fuel f (Charset.both (finish set)) .empty s
    | '-' :: '-' :: s => classItems fuel f (Charset.without (finish set)) .empty s
    | '~' :: '~' :: s => classItems fuel f (Charset.inOneOf (finish set)) .empty s
    | '[' :: s =>
      let inner :=
        match s with
        | ':' :: kind => (kind? kind).map fun (set, s) => (f.ascii set, s)
        | _ => none
      (inner <|> class? fuel f s).bind fun (inner, s) => classItems fuel f finish (.either set inner) s
    | s => (classRange? f s).bind fun (item, s) => classItems fuel f finish (.either set item) s

end

/-! ## Groups -/

/-- What an opening parenthesis begins: a group with a name or without,
or new flags for the rest of the group around it. -/
inductive Opening where
  | group (name : Option String) (flags : Flags)
  | flags (flags : Flags)

def isNameStart (c : Char) : Bool := c = '_' || (Text.alphanumeric c && !c.isDigit)

def isNameChar (c : Char) : Bool := c = '_' || c = '.' || c = '[' || c = ']' || Text.alphanumeric c

/-- A group's name up to its closing sign. -/
def groupName? (f : Flags) (s : List Char) : Option (Opening × List Char) := do
  let (name, s) ← Text.cut? ['>'] s
  guard ((name.head?.any isNameStart) && name.all isNameChar)
  some (.group (String.ofList name) f, s)

/-- What stands after an opening parenthesis. -/
def opening? (f : Flags) (s : List Char) : Option (Opening × List Char) :=
  match skip f s with
  | '?' :: 'P' :: '<' :: s => groupName? f s
  | '?' :: '<' :: s => groupName? f s
  | '?' :: s => do
    match ← f.read? [] s with
    | (new, ':' :: rest) => some (.group none new, rest)
    | (new, ')' :: rest) => if s.head? = some ')' then none else some (.flags new, rest)
    | _ => none
  | s => some (.group none f, s)

/-! ## The whole -/

/-- Patterns one after the other, given last first; flags among them take
no part. -/
def inSequence (done : List (Option Pattern)) : Pattern :=
  (done.reverse.filterMap id).foldr .sequence .nothing

/-- A pattern with a sign for repetition after it. -/
def repeated (mark : Char) (greedy : Bool) (p : Pattern) : Pattern :=
  if mark = '*' then many greedy p else if mark = '+' then onceOrMore greedy p else optional greedy p

/-- One pattern that is no group and not repeated. -/
def atom? (f : Flags) : List Char → Option (Pattern × List Char)
  | [] => none
  | '.' :: s => f.dot?.map fun set => (one set, s)
  | '^' :: s => some (place f.start, s)
  | '$' :: s => some (place f.finish, s)
  | '\x7b' :: _ => none
  | '[' :: s => (class? (2 * s.length + 2) f s).map fun (set, s) => (one set, s)
  | '\\' :: s => do
    match ← escaped? f s with
    | (.char c, s) => (f.literal? c).map fun set => (one set, s)
    | (.place p, s) => some (place p, s)
    | (.set set, s) => some (one (f.ascii set), s)
  | c :: s => (f.literal? c).map fun set => (one set, s)

/-- The alternatives of a group from here on, up to its end. `done` is
what was read of the first of them, last first, with nothing where flags
were set. -/
def alternatives : (fuel : Nat) → Flags → (done : List (Option Pattern)) → List Char →
    Option (Pattern × List Char)
  | 0, _, _, _ => none
  | fuel + 1, f, done, s =>
    match skip f s with
    | [] => some (inSequence done, [])
    | ')' :: s => some (inSequence done, ')' :: s)
    | '|' :: s => do
      let (others, s) ← alternatives fuel f [] s
      some (either (inSequence done) others, s)
    | '(' :: s => do
      match ← opening? f s with
      | (.flags f, s) => alternatives fuel f (none :: done) s
      | (.group name inner, s) =>
        match ← alternatives fuel inner [] s with
        | (body, ')' :: s) =>
          alternatives fuel f (some (name.elim body fun name => named name body) :: done) s
        | _ => none
    | c :: s =>
      if c = '*' || c = '+' || c = '?' then
        match done with
        | some p :: done =>
          let (greedy, s) :=
            match s with
            | '?' :: s => (false, s)
            | s => (true, s)
          alternatives fuel f (some (repeated c (greedy ≠ f.lazy) p) :: done) s
        | _ => none
      else do
        let (p, s) ← atom? f (c :: s)
        alternatives fuel f (some p :: done) s

/-- Reads a pattern; no two of its groups may have one name. -/
def read? (s : String) : Option Pattern := do
  let chars := s.toList
  let (p, rest) ← alternatives (chars.length + 1) {} [] chars
  guard (rest = [] && p.names.eraseDups = p.names)
  some p

end FormLease.Pattern
