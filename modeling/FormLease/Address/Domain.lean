import FormLease.Address.Domain.Punycode
import FormLease.Address.Domain.Refused
import FormLease.Text.Cut
import FormLease.Text.Visible

/-!
# Domain names

The name of a host in an address of the web, in its usual form: small
letters, the characters of every script in their ASCII form where they
have one, and nothing that is only there for the eye. A label that
begins with `xn--` must be the written form of another.
-/

namespace FormLease.Address.Domain

def refusedAscii (c : Char) : Bool :=
  c.toNat ≤ 0x20 || c.toNat = 0x7f || "%#/:<>?@[\\]^|".toList.contains c

/-- A character in its usual form. Wide forms of ASCII characters stand
for these, and the stops of other scripts for a point. -/
def usual (c : Char) : Char :=
  if 0xff01 ≤ c.toNat && c.toNat ≤ 0xff5e then (Char.ofNat (c.toNat - 0xfee0)).toLower
  else if c.toNat = 0x3002 || c.toNat = 0xff61 then '.'
  else c.toLower

/-- Whether a label begins with a character that extends the one before
it. -/
def beginsWithin (label : List Char) : Bool :=
  label.head?.any fun c => 0x80 ≤ c.toNat && !Text.visible c

/-- A label that is the written form of another stands for one in other
characters than ASCII, none of which are refused or left out. -/
def validLabel (label : List Char) : Bool :=
  match Text.afterLead? "xn--".toList label with
  | none => !beginsWithin label
  | some written =>
    match Punycode.decode? written with
    | none => false
    | some decoded =>
      decoded.any (0x80 ≤ ·.toNat) && !beginsWithin decoded
        && decoded.all fun c => !refused c && !ignored c

def read? (s : String) : Option (List Char) := do
  let chars := s.toList.filter (!ignored ·)
  guard (!chars.any refused)
  let name := chars.map usual
  guard (!name.any refusedAscii && (Text.pieces '.' name).all validLabel)
  some name

end FormLease.Address.Domain
