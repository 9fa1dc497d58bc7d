import FormLease.Fault
import FormLease.Sha256
import FormLease.Text.Cut
import FormLease.Text.Hex

/-!
# Resource keys

A submission is leased through the bucket that its instance falls into,
one of 256 for each form: coarser than the instance, finer than the
form, and at most 256 resources for a form however many instances it
has. The key's text is `submission|<form>|<bucket>` with the bucket in
two hexadecimal digits. Nothing is escaped; the fixed width of the end
keeps the text readable back (`ResourceKey.read?`).
-/

namespace FormLease

structure ResourceKey where
  form : String
  bucket : UInt8
  deriving DecidableEq

namespace ResourceKey

def namespaceName : String := "submission"

def bucketCount : Nat := 256

/-- The last byte of the digest of the instance id: every process that
shares a store must find the same bucket. -/
def bucketOf (instanceId : String) : UInt8 :=
  (Sha256.digest instanceId.toUTF8.toList).getLastD 0

/-- The key of a submission; an instance must have an id, if only a
blank one. -/
def ofSubmission (form instanceId : String) : Except LeaseFault ResourceKey :=
  if instanceId = "" then
    .error (.invalidArgument "instance_id" "instance_id cannot be null or empty")
  else .ok ⟨form, bucketOf instanceId⟩

/-- The key of a submission whose instance id may be absent, which counts
as empty. -/
def ofOptional (form : String) (instanceId : Option String) : Except LeaseFault ResourceKey :=
  ofSubmission form (instanceId.getD "")

/-- What stands before the form in a key's text. -/
def lead : String := namespaceName ++ "|"

/-- The bucket in two hexadecimal digits. -/
def bucketText (k : ResourceKey) : List Char := Text.hexByte k.bucket

def text (k : ResourceKey) : String :=
  String.ofList (lead.toList ++ k.form.toList ++ '|' :: k.bucketText)

/-- The key that a text is the text of: the last three characters are
the separator and the bucket, and the form is what stands between them
and the lead. -/
def read? (s : String) : Option ResourceKey := do
  let rest ← Text.afterLead? lead.toList s.toList
  match rest.reverse with
  | low :: high :: '|' :: form =>
    let bucket ← Text.readHexByte? [high, low]
    some ⟨String.ofList form.reverse, bucket⟩
  | _ => none

example : (bucketOf "uuid:1234").toNat = 0x11 := by decide +kernel

end ResourceKey

end FormLease
