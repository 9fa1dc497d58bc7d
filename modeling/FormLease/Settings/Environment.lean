import FormLease.Settings.Dotenv
import FormLease.Settings.Tree
import FormLease.Text.Cut

/-!
# Settings in variables

A variable whose name begins with `submission_`, in any case, gives a
setting: what follows is the key path, with two underscores where a path
has a dot. Its value is a switch or a number if it reads as one, and a
text otherwise.
-/

namespace FormLease.Settings.Environment

/-- What messages call the variables as a source. -/
def origin : String := "the environment"

def key? (name : String) : Option String :=
  (Text.afterLead? "submission_".toList (Text.lower name).toList).map fun key =>
    String.ofList (Text.replaceAll ['_', '_'] ['.'] key)

def scalar (value : String) : Scalar :=
  match Text.lower value with
  | "true" => .flag true
  | "false" => .flag false
  | _ =>
    match Text.integer? 64 value with
    | some n => .integer n
    | none =>
      match Binary64.read? value with
      | some x => .real x
      | none => .text value

def source (vars : Variables) : List (String × Tree) :=
  vars.filterMap fun (name, value) =>
    (key? name).map fun key => (key, .leaf (scalar value) (some origin))

end FormLease.Settings.Environment
