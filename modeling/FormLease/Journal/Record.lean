import FormLease.Text.Cut
import FormLease.Text.Digits

/-!
# Log records

What one line of the log says, before it is laid out as text or as an
object.
-/

namespace FormLease.Journal

inductive Level where
  | error | warn | info | debug | trace
  deriving DecidableEq

namespace Level

def name : Level → String
  | error => "ERROR"
  | warn => "WARN"
  | info => "INFO"
  | debug => "DEBUG"
  | trace => "TRACE"

def all : List Level := [error, warn, info, debug, trace]

/-- The name in filters. -/
def lowerName (l : Level) : String := Text.asciiLower l.name

/-- How much there is to hear: 1 for errors only, 5 for everything. -/
def verbosity : Level → Nat
  | error => 1
  | warn => 2
  | info => 3
  | debug => 4
  | trace => 5

end Level

/-- The last level that is heard; none if nothing is. -/
abbrev Limit := Option Level

namespace Limit

def allows (limit : Limit) (l : Level) : Bool :=
  limit.elim false fun last => l.verbosity ≤ last.verbosity

def name (limit : Limit) : String := limit.elim "off" Level.lowerName

/-- The limit up to which more is heard. -/
def max (a b : Limit) : Limit :=
  if (a.elim 0 Level.verbosity) < (b.elim 0 Level.verbosity) then b else a

/-- The limit that a text names, by its name in any case or by its
verbosity; nothing if it names none. -/
def ofText? (s : String) : Option Limit :=
  match Text.natural? 64 s with
  | some n =>
    if n = 0 then some none else (Level.all.find? fun l => l.verbosity = n).map some
  | none =>
    (none :: Level.all.map some).find? fun limit => name limit = Text.asciiLower s

end Limit

/-- A value beside the message. A `text` is given for display; a
`captured` one is shown in quotes where values are shown as text. -/
inductive Value where
  | text (s : String)
  | captured (s : String)
  | number (n : Nat)
  | flag (b : Bool)
  deriving DecidableEq

/-- The value without quotes. -/
def Value.plain : Value → String
  | text s | captured s => s
  | number n => toString n
  | flag true => "true"
  | flag false => "false"

abbrev Fields := List (String × Value)

structure Record where
  level : Level
  /-- The part of the program that speaks. -/
  target : String
  message : String
  fields : Fields
  deriving DecidableEq

end FormLease.Journal
