import FormLease.Sha256
import FormLease.Span
import FormLease.Text.Hex

/-!
# Seeds

All the chance that a claimant needs comes from one seed: an id that no
other claimant has, and the draws its backoffs are made of. Both are
functions of the seed, so a run can be told from it.
-/

namespace FormLease

abbrev Seed := List UInt8

namespace Seed

/-- The first 16 bytes, with the four bits that say that an id is random
and the two that say how it is laid out. -/
def idBytes (seed : Seed) : List UInt8 :=
  let byte (i : Nat) : UInt8 := seed.getD i 0
  (List.range 16).map fun i =>
    if i = 6 then (byte i &&& 0x0f) ||| 0x40
    else if i = 8 then (byte i &&& 0x3f) ||| 0x80
    else byte i

/-- The id in five groups of hexadecimal digits. -/
def id (seed : Seed) : String :=
  let digits := seed.idBytes.flatMap Text.hexByte
  let group (start size : Nat) : String := String.ofList ((digits.drop start).take size)
  "-".intercalate [group 0 8, group 8 4, group 12 4, group 16 4, group 20 12]

/-- The draws: the first 53 bits of the digest of the seed with the
number of the draw. -/
def draw (seed : Seed) (i : Nat) : Draw :=
  let digest := Sha256.digest (seed ++ (toString i).toUTF8.toList)
  let number := (digest.take 7).foldl (fun n b => 256 * n + b.toNat) 0
  Draw.ofNat (number / 8)

end Seed

end FormLease
