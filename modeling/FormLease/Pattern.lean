import FormLease.Pattern.Charset

/-!
# Patterns

Regular expressions in which the alternatives are ordered: of the ways
to match, one that comes earlier is preferred to one that comes later,
however much of the text it takes. `Pattern.matchesAll` says whether the
preferred way to match at the beginning of a text takes all of it.

A match in progress is the list of patterns that are still to come, and
`Pattern.ready` turns a pattern into the ways to go on, in order, each of
which is over or begins with a character. Only the derivatives of one
pattern ever occur, so that a text is matched in one pass.
-/

namespace FormLease

/-- A place between two characters. -/
inductive Place where
  | start
  | finish
  | lineStart
  | lineFinish
  /-- As the two before, where a carriage return ends lines, too. -/
  | returnStart
  | returnFinish
  | wordEdge
  | noWordEdge
  | wordStart
  | wordFinish
  deriving DecidableEq

namespace Place

def isWord (c : Option Char) : Bool := c.any Charset.wordChars.contains

/-- Whether this is the place between two characters, of which there is
none before the text and none after it. -/
def holds (place : Place) (before after : Option Char) : Bool :=
  match place with
  | start => before.isNone
  | finish => after.isNone
  | lineStart => before.isNone || before = some '\n'
  | lineFinish => after.isNone || after = some '\n'
  | returnStart =>
    before.isNone || before = some '\n' || (before = some '\r' && after ≠ some '\n')
  | returnFinish =>
    after.isNone || after = some '\r' || (after = some '\n' && before ≠ some '\r')
  | wordEdge => isWord before ≠ isWord after
  | noWordEdge => isWord before = isWord after
  | wordStart => !isWord before && isWord after
  | wordFinish => isWord before && !isWord after

end Place

inductive Pattern where
  | nothing
  | one (set : Charset)
  | place (place : Place)
  | sequence (a b : Pattern)
  /-- The first is preferred. -/
  | either (a b : Pattern)
  /-- Any number of times, as often as possible or as seldom. -/
  | many (greedy : Bool) (body : Pattern)
  | named (name : String) (body : Pattern)
  deriving DecidableEq

namespace Pattern

def optional (greedy : Bool) (body : Pattern) : Pattern :=
  if greedy then either body nothing else either nothing body

def onceOrMore (greedy : Bool) (body : Pattern) : Pattern := sequence body (many greedy body)

/-- The names in a pattern. -/
def names : Pattern → List String
  | nothing | one _ | place _ => []
  | sequence a b | either a b => a.names ++ b.names
  | many _ body => body.names
  | named name body => name :: body.names

/-- What is still to come of a match. -/
abbrev Rest := List Pattern

/-- The ways to go on with a pattern between two characters. A pattern
that is to be repeated but takes nothing is left. -/
def ready (before after : Option Char) : Pattern → List Rest
  | nothing => [[]]
  | one set => [[one set]]
  | place p => if p.holds before after then [[]] else []
  | sequence a b =>
    (a.ready before after).flatMap fun rest =>
      if rest = [] then b.ready before after else [rest ++ [b]]
  | either a b => a.ready before after ++ b.ready before after
  | many greedy body =>
    let again := (body.ready before after).map fun rest =>
      if rest = [] then [] else rest ++ [many greedy body]
    if greedy then again ++ [[]] else [] :: again
  | named _ body => body.ready before after

def readyRest (before after : Option Char) : Rest → List Rest
  | [] => [[]]
  | p :: following =>
    (p.ready before after).flatMap fun rest =>
      if rest = [] then readyRest before after following else [rest ++ following]

/-- What is to come after a character. -/
def step? (c : Char) : Rest → Option Rest
  | one set :: rest => if set.contains c then some rest else none
  | _ => none

/-- Whether the preferred way to go on takes a whole text. Where one way
is over before the text is, those after it are given up. -/
def takesAll : (before : Option Char) → List Rest → List Char → Bool
  | before, rests, [] => (rests.flatMap (readyRest before none)).contains []
  | before, rests, c :: s =>
    let ways := (rests.flatMap (readyRest before (some c))).eraseDups
    takesAll (some c) ((ways.takeWhile (· ≠ [])).filterMap (step? c)) s

/-- Whether the preferred way to match at the beginning of a text takes
all of it. -/
def matchesAll (p : Pattern) (s : String) : Bool := takesAll none [[p]] s.toList

end Pattern

end FormLease
