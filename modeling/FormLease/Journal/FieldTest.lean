import FormLease.Binary64
import FormLease.Pattern.Reader

/-!
# Tests of fields

What a log filter asks of a field of a span: that it is there, and
perhaps what it is. A value that reads as a truth value or as a number
stands for that; any other is a pattern for the text of the field.
-/

namespace FormLease.Journal

inductive Expected where
  | flag (b : Bool)
  | number (x : Binary64)
  | natural (n : Nat)
  | integer (n : Int)
  | pattern (source : String) (pattern : Pattern)
  deriving DecidableEq

namespace Expected

/-- Reads a value; a pattern must be one. -/
def read? (s : String) : Option Expected :=
  match s, Text.natural? 64 s, Text.integer? 64 s, Binary64.read? s with
  | "true", _, _, _ => some (flag true)
  | "false", _, _, _ => some (flag false)
  | _, some n, _, _ => some (natural n)
  | _, none, some n, _ => some (integer n)
  | _, none, none, some x => some (number x)
  | _, none, none, none => (Pattern.read? s).map (pattern s)

/-- The value in its usual form, and a pattern as it was given. -/
def text : Expected → String
  | flag true => "true"
  | flag false => "false"
  | number x => x.text
  | natural n => toString n
  | integer n => toString n
  | pattern source _ => source

/-- Whether the text of a field is what was asked for. A text is no truth
value and no number, whatever it reads as. -/
def fits (e : Expected) (field : String) : Bool :=
  match e with
  | pattern _ p => p.matchesAll field
  | flag _ | number _ | natural _ | integer _ => false

/-- Kinds of values in ascending order. -/
def kind : Expected → Nat
  | flag _ => 0
  | number _ => 1
  | natural _ => 2
  | integer _ => 3
  | pattern _ _ => 4

def compareText (a b : String) : Ordering := compareOfLessAndEq a b

/-- The order of values: by their kind, then as is usual for it. -/
def compareValue (a b : Expected) : Ordering :=
  match a, b with
  | flag a, flag b => compare a.toNat b.toNat
  | number a, number b => a.compareValue b
  | natural a, natural b => compare a b
  | integer a, integer b => compare a b
  | pattern a _, pattern b _ => compareText a b
  | _, _ => compare a.kind b.kind

end Expected

structure FieldTest where
  name : String
  value : Option Expected
  deriving DecidableEq

namespace FieldTest

/-- Reads `name` or `name=value`; nothing that follows a second equals
sign counts. -/
def read? (s : List Char) : Option FieldTest :=
  match (Text.pieces '=' s).map String.ofList with
  | name :: value :: _ => (Expected.read? value).map fun value => ⟨name, some value⟩
  | name :: [] => some ⟨name, none⟩
  | [] => none

def text (f : FieldTest) : String := f.name ++ f.value.elim "" fun value => "=" ++ value.text

def passes (f : FieldTest) (field : Option String) : Bool :=
  match f.value, field with
  | none, _ => true
  | some value, some field => value.fits field
  | some _, none => false

def compareOption {α : Type} (compare : α → α → Ordering) : Option α → Option α → Ordering
  | none, none => .eq
  | none, some _ => .lt
  | some _, none => .gt
  | some a, some b => compare a b

/-- A test that asks for a value asks for more than one that does
not. -/
def compareDemand (a b : FieldTest) : Ordering :=
  (compare a.value.isSome.toNat b.value.isSome.toNat).then
    ((Expected.compareText a.name b.name).then
      (compareOption Expected.compareValue a.value b.value))

end FieldTest

end FormLease.Journal
