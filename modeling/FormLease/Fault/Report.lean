import FormLease.Text.Cut

/-!
# Reports of faults

What a person reads when a program ends with a fault: its text, and below
it the texts of the faults behind it, nearest first, numbered if there
are several.
-/

namespace FormLease.Fault

/-- A text after a lead, its further lines under the first. -/
def hanging (lead margin s : String) : String :=
  lead ++ ("\n" ++ margin).intercalate ((Text.pieces '\n' s.toList).map String.ofList)

/-- A number at the right end of five places. -/
def numbered (n : Nat) : String :=
  let digits := toString n
  String.ofList (List.replicate (5 - digits.length) ' ') ++ digits ++ ": "

def causesText : List String → String
  | [] => ""
  | [cause] => "\n\nCaused by:\n" ++ hanging "    " "    " cause
  | causes =>
    "\n\nCaused by:"
      ++ String.join (causes.zipIdx.map fun (cause, i) => "\n" ++ hanging (numbered i) "       " cause)

def report (message : String) (causes : List String) : String :=
  "Error: " ++ message ++ causesText causes ++ "\n"

example : report "a" ["b", "c"] = "Error: a\n\nCaused by:\n    0: b\n    1: c\n" := by
  decide +kernel

end FormLease.Fault
