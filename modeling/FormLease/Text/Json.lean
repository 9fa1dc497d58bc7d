import FormLease.Text.Hex

/-!
# Text in JSON

The form of a text within a JSON document: between double quotes, with
short escapes where there are any and four hexadecimal digits for the
other controls.
-/

namespace FormLease.Text

/-- One character as it stands between the quotes. -/
def jsonEscaped (c : Char) : List Char :=
  match c with
  | '"' => ['\\', '"']
  | '\\' => ['\\', '\\']
  | '\n' => ['\\', 'n']
  | '\r' => ['\\', 'r']
  | '\t' => ['\\', 't']
  | '\x08' => ['\\', 'b']
  | '\x0c' => ['\\', 'f']
  | _ =>
    if c.toNat < 0x20 then ['\\', 'u', '0', '0', hexDigit (c.toNat / 16), hexDigit (c.toNat % 16)]
    else [c]

def json (s : String) : String := String.ofList ('"' :: s.toList.flatMap jsonEscaped ++ ['"'])

example : json "a\"\n\x01" = "\"a\\\"\\n\\u0001\"" := by decide +kernel

end FormLease.Text
