import FormLease.Text.Hex
import FormLease.Text.Visible

/-!
# Quoted text

The form in which messages show a text of unknown content: between
double quotes, with a backslash before a quote or a backslash, short
escapes for the common controls, and the code point in braces for every
other character that is not visible.
-/

namespace FormLease.Text

/-- One character as it stands between the quotes. -/
def escaped (c : Char) : List Char :=
  match c with
  | '"' => ['\\', '"']
  | '\\' => ['\\', '\\']
  | '\n' => ['\\', 'n']
  | '\t' => ['\\', 't']
  | '\r' => ['\\', 'r']
  | '\x00' => ['\\', '0']
  | _ => if visible c then [c] else ['\\', 'u', '\x7b'] ++ hexDigits c.toNat ++ ['\x7d']

def quoted (s : String) : String :=
  String.ofList ('"' :: s.toList.flatMap escaped ++ ['"'])

example : quoted "a\"b" = "\"a\\\"b\"" := by decide +kernel
example : quoted "\x1b" = "\"\\u\x7b1b\x7d\"" := by decide +kernel
example : quoted "用户" = "\"用户\"" := by decide +kernel

end FormLease.Text
