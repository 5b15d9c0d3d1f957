import Turnstile.Text.Hex

/-!
The hash SHA-256 of a text's UTF-8 bytes, written with 64 lower-case hexadecimal digits.
-/

namespace Turnstile.Sha256

/-! ## Algorithm -/

/-- The round constants: the first 32 bits of the fractions of the cube roots of the first primes.
-/
def roundConstants : List UInt32 :=
  [0x428a2f98, 0x71374491, 0xb5c0fbcf, 0xe9b5dba5, 0x3956c25b, 0x59f111f1, 0x923f82a4, 0xab1c5ed5,
   0xd807aa98, 0x12835b01, 0x243185be, 0x550c7dc3, 0x72be5d74, 0x80deb1fe, 0x9bdc06a7, 0xc19bf174,
   0xe49b69c1, 0xefbe4786, 0x0fc19dc6, 0x240ca1cc, 0x2de92c6f, 0x4a7484aa, 0x5cb0a9dc, 0x76f988da,
   0x983e5152, 0xa831c66d, 0xb00327c8, 0xbf597fc7, 0xc6e00bf3, 0xd5a79147, 0x06ca6351, 0x14292967,
   0x27b70a85, 0x2e1b2138, 0x4d2c6dfc, 0x53380d13, 0x650a7354, 0x766a0abb, 0x81c2c92e, 0x92722c85,
   0xa2bfe8a1, 0xa81a664b, 0xc24b8b70, 0xc76c51a3, 0xd192e819, 0xd6990624, 0xf40e3585, 0x106aa070,
   0x19a4c116, 0x1e376c08, 0x2748774c, 0x34b0bcb5, 0x391c0cb3, 0x4ed8aa4a, 0x5b9cca4f, 0x682e6ff3,
   0x748f82ee, 0x78a5636f, 0x84c87814, 0x8cc70208, 0x90befffa, 0xa4506ceb, 0xbef9a3f7, 0xc67178f2]

/-- The eight words of a hash value. -/
structure Words where
  a : UInt32
  b : UInt32
  c : UInt32
  d : UInt32
  e : UInt32
  f : UInt32
  g : UInt32
  h : UInt32

/-- The initial hash value. -/
def initial : Words :=
  ⟨0x6a09e667, 0xbb67ae85, 0x3c6ef372, 0xa54ff53a, 0x510e527f, 0x9b05688c, 0x1f83d9ab, 0x5be0cd19⟩

/-- Rotation to the right. -/
def rotate (x : UInt32) (n : UInt32) : UInt32 := (x >>> n) ||| (x <<< (32 - n))

/-- A message followed by a one bit, zeros, and its length in bits. -/
def pad (message : List UInt8) : List UInt8 :=
  let length := message.length
  let zeros := (119 - length % 64) % 64
  let bits := length * 8
  message ++ 0x80 :: List.replicate zeros 0 ++
    (List.range 8).map fun i => UInt8.ofNat (bits / Nat.pow 256 (7 - i))

/-- Four bytes as a word, the first byte highest. -/
def toWords : List UInt8 → List UInt32
  | a :: b :: c :: d :: rest =>
    (a.toUInt32 <<< 24 ||| b.toUInt32 <<< 16 ||| c.toUInt32 <<< 8 ||| d.toUInt32) :: toWords rest
  | _ => []

/-- The next word of the message schedule. -/
def nextWord (schedule : Array UInt32) : UInt32 :=
  let at_ := fun back => schedule.getD (schedule.size - back) 0
  let x := at_ 15
  let y := at_ 2
  let small0 := rotate x 7 ^^^ rotate x 18 ^^^ (x >>> 3)
  let small1 := rotate y 17 ^^^ rotate y 19 ^^^ (y >>> 10)
  at_ 16 + small0 + at_ 7 + small1

/-- The sixty-four words of the message schedule of a block. -/
def schedule (block : List UInt32) : List UInt32 :=
  ((List.range 48).foldl (fun s _ => s.push (nextWord s)) block.toArray).toList

/-- One round. -/
def round (w : Words) (input : UInt32 × UInt32) : Words :=
  let (constant, word) := input
  let big1 := rotate w.e 6 ^^^ rotate w.e 11 ^^^ rotate w.e 25
  let choice := (w.e &&& w.f) ^^^ (~~~w.e &&& w.g)
  let t1 := w.h + big1 + choice + constant + word
  let big0 := rotate w.a 2 ^^^ rotate w.a 13 ^^^ rotate w.a 22
  let majority := (w.a &&& w.b) ^^^ (w.a &&& w.c) ^^^ (w.b &&& w.c)
  ⟨t1 + (big0 + majority), w.a, w.b, w.c, w.d + t1, w.e, w.f, w.g⟩

/-- The hash value after a block. -/
def compress (w : Words) (block : List UInt32) : Words :=
  let r := (roundConstants.zip (schedule block)).foldl round w
  ⟨w.a + r.a, w.b + r.b, w.c + r.c, w.d + r.d, w.e + r.e, w.f + r.f, w.g + r.g, w.h + r.h⟩

/-- The hash value after `count` blocks of sixteen words. -/
def hashBlocks : Nat → Words → List UInt32 → Words
  | 0, w, _ => w
  | count + 1, w, words => hashBlocks count (compress w (words.take 16)) (words.drop 16)

/-- The hash value of a message. -/
def hash (message : List UInt8) : Words :=
  let words := toWords (pad message)
  hashBlocks (words.length / 16) initial words

/-- The digits of a hash value. -/
def Words.digits (w : Words) : List Char :=
  [w.a, w.b, w.c, w.d, w.e, w.f, w.g, w.h].flatMap fun word => Text.hexDigits 8 word.toNat

/-- The digits of the hash of a text. -/
def hexDigest (s : String) : List Char := (hash s.toUTF8.toList).digits

/-! ## Lemmas -/

@[simp]
theorem Words.length_digits (w : Words) : w.digits.length = 64 := by
  simp [Words.digits]

theorem length_hexDigest (s : String) : (hexDigest s).length = 64 := Words.length_digits _

end Turnstile.Sha256
