/-!
# SHA-256

The digest of a byte string. A message is padded to whole blocks of 64
bytes (`padded`), each block is spread over 64 words (`schedule`) and
folded into a chaining state of eight words (`compress`).
-/

namespace FormLease.Sha256

/-- The first 32 fractional bits of the square roots of the first eight
primes. -/
def initialState : Vector UInt32 8 :=
  #v[0x6a09e667, 0xbb67ae85, 0x3c6ef372, 0xa54ff53a, 0x510e527f, 0x9b05688c, 0x1f83d9ab, 0x5be0cd19]

/-- The first 32 fractional bits of the cube roots of the first 64
primes. -/
def roundConstants : Vector UInt32 64 :=
  #v[0x428a2f98, 0x71374491, 0xb5c0fbcf, 0xe9b5dba5, 0x3956c25b, 0x59f111f1, 0x923f82a4, 0xab1c5ed5,
     0xd807aa98, 0x12835b01, 0x243185be, 0x550c7dc3, 0x72be5d74, 0x80deb1fe, 0x9bdc06a7, 0xc19bf174,
     0xe49b69c1, 0xefbe4786, 0x0fc19dc6, 0x240ca1cc, 0x2de92c6f, 0x4a7484aa, 0x5cb0a9dc, 0x76f988da,
     0x983e5152, 0xa831c66d, 0xb00327c8, 0xbf597fc7, 0xc6e00bf3, 0xd5a79147, 0x06ca6351, 0x14292967,
     0x27b70a85, 0x2e1b2138, 0x4d2c6dfc, 0x53380d13, 0x650a7354, 0x766a0abb, 0x81c2c92e, 0x92722c85,
     0xa2bfe8a1, 0xa81a664b, 0xc24b8b70, 0xc76c51a3, 0xd192e819, 0xd6990624, 0xf40e3585, 0x106aa070,
     0x19a4c116, 0x1e376c08, 0x2748774c, 0x34b0bcb5, 0x391c0cb3, 0x4ed8aa4a, 0x5b9cca4f, 0x682e6ff3,
     0x748f82ee, 0x78a5636f, 0x84c87814, 0x8cc70208, 0x90befffa, 0xa4506ceb, 0xbef9a3f7, 0xc67178f2]

def rotr (x : UInt32) (n : UInt32) : UInt32 := (x >>> n) ||| (x <<< (32 - n))

def choose (x y z : UInt32) : UInt32 := (x &&& y) ^^^ (~~~x &&& z)

def majority (x y z : UInt32) : UInt32 := (x &&& y) ^^^ (x &&& z) ^^^ (y &&& z)

def bigSigma0 (x : UInt32) : UInt32 := rotr x 2 ^^^ rotr x 13 ^^^ rotr x 22

def bigSigma1 (x : UInt32) : UInt32 := rotr x 6 ^^^ rotr x 11 ^^^ rotr x 25

def smallSigma0 (x : UInt32) : UInt32 := rotr x 7 ^^^ rotr x 18 ^^^ (x >>> 3)

def smallSigma1 (x : UInt32) : UInt32 := rotr x 17 ^^^ rotr x 19 ^^^ (x >>> 10)

/-- A one bit, zeros up to eight bytes short of a whole block, and the
length in bits as eight bytes, highest first. -/
def padded (message : List UInt8) : List UInt8 :=
  let zeros := (119 - message.length % 64) % 64
  let bits := 8 * message.length
  let lengthBytes := (List.range 8).map fun i => UInt8.ofNat (bits >>> (8 * (7 - i)))
  message ++ [0x80] ++ List.replicate zeros 0 ++ lengthBytes

/-- Four bytes as one word, highest first. -/
def word (a b c d : UInt8) : UInt32 :=
  a.toUInt32 <<< 24 ||| b.toUInt32 <<< 16 ||| c.toUInt32 <<< 8 ||| d.toUInt32

/-- The words of a byte string; fewer than four bytes at the end are
left out, and a padded message has none. -/
def words : List UInt8 → List UInt32
  | a :: b :: c :: d :: rest => word a b c d :: words rest
  | _ => []

/-- The words so far, newest first, extended by `more` words: each is
made of those two, seven, fifteen and sixteen places back. -/
def extend : Nat → List UInt32 → List UInt32
  | 0, newest => newest
  | more + 1, newest =>
    let back (n : Nat) : UInt32 := newest.getD (n - 1) 0
    let next : UInt32 := smallSigma1 (back 2) + back 7 + smallSigma0 (back 15) + back 16
    extend more (next :: newest)

/-- The 64 words of a block of sixteen. -/
def schedule (block : List UInt32) : List UInt32 := (extend 48 block.reverse).reverse

/-- One round: the eight working words move down one place. -/
def mix (s : Vector UInt32 8) (constant scheduled : UInt32) : Vector UInt32 8 :=
  let t1 := s[7] + bigSigma1 s[4] + choose s[4] s[5] s[6] + constant + scheduled
  let t2 := bigSigma0 s[0] + majority s[0] s[1] s[2]
  #v[t1 + t2, s[0], s[1], s[2], s[3] + t1, s[4], s[5], s[6]]

/-- The chaining state after one more block. -/
def compress (state : Vector UInt32 8) (block : List UInt32) : Vector UInt32 8 :=
  let mixed := (roundConstants.toList.zip (schedule block)).foldl (fun s (k, w) => mix s k w) state
  Vector.zipWith (· + ·) state mixed

/-- The chaining state after all sixteen-word blocks, `blocks` of them. -/
def absorb : Nat → List UInt32 → Vector UInt32 8 → Vector UInt32 8
  | 0, _, state => state
  | blocks + 1, ws, state => absorb blocks (ws.drop 16) (compress state (ws.take 16))

def digestWords (message : List UInt8) : Vector UInt32 8 :=
  let ws := words (padded message)
  absorb (ws.length / 16) ws initialState

def digest (message : List UInt8) : List UInt8 :=
  (digestWords message).toList.flatMap fun (w : UInt32) =>
    [(w >>> 24).toUInt8, (w >>> 16).toUInt8, (w >>> 8).toUInt8, w.toUInt8]

end FormLease.Sha256
