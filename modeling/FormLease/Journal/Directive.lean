import FormLease.Journal.FieldTest
import FormLease.Journal.Record

/-!
# Directives

One piece of a log filter: `target[span{field=value}]=level`, where every
part may be missing. A directive says up to which level something is
heard whose target begins with the given one. With a span or a field it
is about spans and what happens within them.
-/

namespace FormLease.Journal

structure Directive where
  target : Option String
  span : Option String
  fields : List FieldTest
  limit : Limit
  deriving DecidableEq

namespace Directive

/-! ## Reading

Where the parts of a directive begin and end is found in its piece of
the filter without the blanks around it. But what stands there is taken
from the whole piece, by the same counts of bytes, so that blanks before
a directive shift what is read and blanks after it belong to its last
part.
-/

structure Piece where
  whole : List Char

namespace Piece

def bytes (s : List Char) : Nat := s.foldl (fun n c => n + c.utf8Size) 0

def scanned (p : Piece) : List Char := Text.trimStart (Text.trimEnd p.whole)

/-- How many bytes stand before some end of the scanned text. -/
def offset (p : Piece) (tail : List Char) : Nat := bytes p.scanned - bytes tail

/-- What follows so many bytes; none if they end within a character. -/
def dropBytes? : Nat → List Char → Option (List Char)
  | 0, s => some s
  | _, [] => none
  | n, c :: s => if c.utf8Size ≤ n then dropBytes? (n - c.utf8Size) s else none

/-- What stands in the whole piece from where one end of the scanned text
begins. -/
def textFrom? (p : Piece) (first : List Char) : Option (List Char) :=
  dropBytes? (p.offset first) p.whole

/-- What stands in the whole piece from where one end of the scanned text
begins up to where another does. -/
def textBetween? (p : Piece) (first last : List Char) : Option (List Char) := do
  let here ← p.textFrom? first
  let after ← p.textFrom? last
  some (here.take (here.length - after.length))

end Piece

/-- The level after the equals sign; nothing there means every level. -/
def readLimit? (s : List Char) : Option Limit :=
  if s = [] then some (some .trace) else Limit.ofText? (String.ofList s)

/-- A directive after its closing bracket. -/
def afterSpan? (p : Piece) (target span : Option String) (fields : List FieldTest) :
    List Char → Option Directive
  | [] => some ⟨target, span, fields, some .trace⟩
  | '=' :: limit => do
    let limit ← readLimit? (← p.textFrom? limit)
    some ⟨target, span, fields, limit⟩
  | _ => none

/-- A directive after its opening bracket. -/
def spanned? (p : Piece) (target : Option String) (s : List Char) : Option Directive := do
  let rest := s.dropWhile fun c => c ≠ ']' && c ≠ '\x7b'
  let name := String.ofList (← p.textBetween? s rest)
  match rest with
  | ']' :: rest => afterSpan? p target (some name) [] rest
  | '\x7b' :: inner =>
    let rest := inner.dropWhile (· ≠ '\x7d')
    let field ← p.textBetween? inner rest
    guard (field ≠ [])
    let field ← FieldTest.read? field
    match rest with
    | _ :: ']' :: rest => afterSpan? p target (if name = "" then none else some name) [field] rest
    | _ => none
  | _ => none

def isWordStart (c : Char) : Bool :=
  c = '-' || c = ':' || c = '_' || Text.alphanumeric c

/-- A single word: a level for everything, or a target heard at every
level. -/
def bare (word : String) : Directive :=
  match Limit.ofText? word with
  | some limit => ⟨none, none, [], limit⟩
  | none => ⟨some word, none, [], some .trace⟩

/-- Reads a piece of a filter between two commas. -/
def read? (piece : List Char) : Option Directive :=
  let p : Piece := ⟨piece⟩
  match p.scanned with
  | [] => none
  | '[' :: rest => spanned? p none rest
  | c :: rest =>
    if isWordStart c then do
      let after := (c :: rest).dropWhile fun c => c ≠ '=' && c ≠ '['
      let word := String.ofList (← p.textBetween? (c :: rest) after)
      match after with
      | '=' :: limit =>
        let limit ← readLimit? (← p.textFrom? limit)
        some ⟨some word, none, [], limit⟩
      | '[' :: rest => spanned? p (some word) rest
      | _ => some (bare (String.ofList (← p.textFrom? (c :: rest))))
    else none

/-! ## Writing -/

def text (d : Directive) : String :=
  let fields :=
    if d.fields = [] then ""
    else "\x7b" ++ ",".intercalate (d.fields.map FieldTest.text) ++ "\x7d"
  let about :=
    d.target.getD ""
      ++ (if d.span = none && d.fields = [] then ""
        else "[" ++ d.span.getD "" ++ fields ++ "]")
  (if d.target = none && d.span = none && d.fields = [] then "" else about ++ "=")
    ++ Limit.name d.limit

/-! ## Order

The more a directive asks for, the earlier it is looked at. -/

def compareFields : List FieldTest → List FieldTest → Ordering
  | [], [] => .eq
  | [], _ :: _ => .lt
  | _ :: _, [] => .gt
  | a :: as, b :: bs => (a.compareDemand b).then (compareFields as bs)

/-- By how much two directives ask for, and by their texts if that is
the same. Their levels do not count. -/
def compareDemands (a b : Directive) : Ordering :=
  let compareTexts := FieldTest.compareOption Expected.compareText
  (FieldTest.compareOption compare (a.target.map String.utf8ByteSize)
    (b.target.map String.utf8ByteSize)).then
  ((compare a.span.isSome.toNat b.span.isSome.toNat).then
  ((compare a.fields.length b.fields.length).then
  ((compareTexts a.target b.target).then
  ((compareTexts a.span b.span).then
    (compareFields a.fields b.fields)))))

/-- Puts a directive at its place, where it replaces one that asks for
the same. -/
def insert (d : Directive) : List Directive → List Directive
  | [] => [d]
  | e :: rest =>
    match compareDemands d e with
    | .gt => d :: e :: rest
    | .eq => d :: rest
    | .lt => e :: insert d rest

end Directive

end FormLease.Journal
