import Mintage.Digest.Blake2b

/-!
# SHA-256 and SHA-512

The digests inside of signatures. Both are one construction over words of 32 and 64 bits: the bytes
are padded to whole blocks of sixteen words with their length at the end, and each block is mixed
into a state of eight words in rounds, each with a constant of its own. The constants of SHA-256 are
the high halves of those of SHA-512. `hmac` makes of either digest one with a key.
-/

namespace Mintage.Sha2

/-- What the two digests differ in. -/
structure Variant (W : Type) where
  /-- The number of bytes in a word. -/
  wordBytes : Nat
  word : Nat → W
  number : W → Nat
  /-- The high bits of a word of 64 bits. -/
  ofConstant : UInt64 → W
  rounds : Nat
  /-- Rotates right. -/
  rotate : W → W → W
  /-- The rotations of the first state word. -/
  upper : W × W × W
  /-- The rotations of the fifth state word. -/
  lower : W × W × W
  /-- Two rotations and a shift of the fifteenth word back. -/
  early : W × W × W
  /-- Two rotations and a shift of the second word back. -/
  late : W × W × W

/-- The constants of the rounds: the first 64 fractional bits of the cube roots of the first eighty
primes. -/
def constants : List UInt64 := [
  0x428a2f98d728ae22, 0x7137449123ef65cd, 0xb5c0fbcfec4d3b2f, 0xe9b5dba58189dbbc,
  0x3956c25bf348b538, 0x59f111f1b605d019, 0x923f82a4af194f9b, 0xab1c5ed5da6d8118,
  0xd807aa98a3030242, 0x12835b0145706fbe, 0x243185be4ee4b28c, 0x550c7dc3d5ffb4e2,
  0x72be5d74f27b896f, 0x80deb1fe3b1696b1, 0x9bdc06a725c71235, 0xc19bf174cf692694,
  0xe49b69c19ef14ad2, 0xefbe4786384f25e3, 0x0fc19dc68b8cd5b5, 0x240ca1cc77ac9c65,
  0x2de92c6f592b0275, 0x4a7484aa6ea6e483, 0x5cb0a9dcbd41fbd4, 0x76f988da831153b5,
  0x983e5152ee66dfab, 0xa831c66d2db43210, 0xb00327c898fb213f, 0xbf597fc7beef0ee4,
  0xc6e00bf33da88fc2, 0xd5a79147930aa725, 0x06ca6351e003826f, 0x142929670a0e6e70,
  0x27b70a8546d22ffc, 0x2e1b21385c26c926, 0x4d2c6dfc5ac42aed, 0x53380d139d95b3df,
  0x650a73548baf63de, 0x766a0abb3c77b2a8, 0x81c2c92e47edaee6, 0x92722c851482353b,
  0xa2bfe8a14cf10364, 0xa81a664bbc423001, 0xc24b8b70d0f89791, 0xc76c51a30654be30,
  0xd192e819d6ef5218, 0xd69906245565a910, 0xf40e35855771202a, 0x106aa07032bbd1b8,
  0x19a4c116b8d2d0c8, 0x1e376c085141ab53, 0x2748774cdf8eeb99, 0x34b0bcb5e19b48a8,
  0x391c0cb3c5c95a63, 0x4ed8aa4ae3418acb, 0x5b9cca4f7763e373, 0x682e6ff3d6b2b8a3,
  0x748f82ee5defb2fc, 0x78a5636f43172f60, 0x84c87814a1f0ab72, 0x8cc702081a6439ec,
  0x90befffa23631e28, 0xa4506cebde82bde9, 0xbef9a3f7b2c67915, 0xc67178f2e372532b,
  0xca273eceea26619c, 0xd186b8c721c0c207, 0xeada7dd6cde0eb1e, 0xf57d4f7fee6ed178,
  0x06f067aa72176fba, 0x0a637dc5a2c898a6, 0x113f9804bef90dae, 0x1b710b35131c471b,
  0x28db77f523047d84, 0x32caab7b40c72493, 0x3c9ebe0a15c9bebc, 0x431d67c49c100d4c,
  0x4cc5d4becb3e42b6, 0x597f299cfc657e2a, 0x5fcb6fab3ad6faec, 0x6c44198c4a475817]

variable {W : Type} [Add W] [XorOp W] [AndOp W] [Complement W] [ShiftRight W]

/-- Three rotations of a word, added without carry. -/
def Variant.spread (v : Variant W) (turns : W × W × W) (x : W) : W :=
  v.rotate x turns.1 ^^^ v.rotate x turns.2.1 ^^^ v.rotate x turns.2.2

/-- Two rotations and a shift of a word, added without carry. -/
def Variant.blur (v : Variant W) (turns : W × W × W) (x : W) : W :=
  v.rotate x turns.1 ^^^ v.rotate x turns.2.1 ^^^ (x >>> turns.2.2)

/-- One round with the constant `k` and the word `w` of the block. -/
def Variant.round (v : Variant W) (s : Vector W 8) (k w : W) : Vector W 8 :=
  let (a, b, c, d) := (s.get 0, s.get 1, s.get 2, s.get 3)
  let (e, f, g, h) := (s.get 4, s.get 5, s.get 6, s.get 7)
  let choice := (e &&& f) ^^^ (~~~e &&& g)
  let majority := (a &&& b) ^^^ (a &&& c) ^^^ (b &&& c)
  let first := h + v.spread v.lower e + choice + k + w
  let second := v.spread v.upper a + majority
  #v[first + second, a, b, c, d + first, e, f, g]

/-- The rounds of one block, one for each constant, while the schedule advances: after sixteen words
comes one that is made of four of them. -/
def Variant.mix (v : Variant W) : List W → Vector W 16 → Vector W 8 → Vector W 8
  | [], _, s => s
  | k :: ks, w, s =>
    let next := v.blur v.late w[14] + w[9] + v.blur v.early w[1] + w[0]
    v.mix ks ((w.push next).drop 1) (v.round s k w[0])

/-- The words of a block. -/
def Variant.words (v : Variant W) (block : Bytes) : Vector W 16 :=
  Vector.ofFn fun i =>
    v.word (ofBigEndian ((block.drop (v.wordBytes * i.val)).take v.wordBytes))

/-- Takes blocks into the state until fewer bytes than a block are left. -/
def Variant.absorb (v : Variant W) (s : Vector W 8) (bs : Bytes) : Vector W 8 :=
  if h : 0 < v.wordBytes ∧ 16 * v.wordBytes ≤ bs.length then
    let keys := (constants.take v.rounds).map v.ofConstant
    let t := v.mix keys (v.words (bs.take (16 * v.wordBytes))) s
    v.absorb (Vector.ofFn fun i => s[i] + t[i]) (bs.drop (16 * v.wordBytes))
  else s
termination_by bs.length
decreasing_by simp; omega

/-- Fills a message up to whole blocks: a byte with the high bit, zeros, and the number of bits in
two words. -/
def Variant.pad (v : Variant W) (message : Bytes) : Bytes :=
  let used := message.length + 1 + 2 * v.wordBytes
  let zeros := (16 * v.wordBytes - used % (16 * v.wordBytes)) % (16 * v.wordBytes)
  message ++ 0x80 :: (List.replicate zeros 0 ++ bigEndian (2 * v.wordBytes) (8 * message.length))

/-- The digest of a message. -/
def Variant.digest (v : Variant W) (message : Bytes) : Bytes :=
  let s := v.absorb (Blake2b.initial.map v.ofConstant) (v.pad message)
  s.toList.flatMap fun x => bigEndian v.wordBytes (v.number x)

/-- The digest over words of 32 bits. -/
def variant256 : Variant UInt32 where
  wordBytes := 4
  word := UInt32.ofNat
  number := UInt32.toNat
  ofConstant := fun k => (k >>> 32).toUInt32
  rounds := 64
  rotate := fun x k => (x >>> k) ||| (x <<< (32 - k))
  upper := (2, 13, 22)
  lower := (6, 11, 25)
  early := (7, 18, 3)
  late := (17, 19, 10)

/-- The digest over words of 64 bits. -/
def variant512 : Variant UInt64 where
  wordBytes := 8
  word := UInt64.ofNat
  number := UInt64.toNat
  ofConstant := id
  rounds := 80
  rotate := fun x k => (x >>> k) ||| (x <<< (64 - k))
  upper := (28, 34, 39)
  lower := (14, 18, 41)
  early := (1, 8, 7)
  late := (19, 61, 6)

/-- The SHA-256 digest of a message. -/
def sha256 (message : Bytes) : Bytes := variant256.digest message

/-- The SHA-512 digest of a message. -/
def sha512 (message : Bytes) : Bytes := variant512.digest message

/-- The keyed digest HMAC-SHA-256. A key longer than a block is hashed first. -/
def hmac (key message : Bytes) : Bytes :=
  let key := (if 64 < key.length then sha256 key else key).rightpad 64 0
  sha256 (key.map (· ^^^ 0x5c) ++ sha256 (key.map (· ^^^ 0x36) ++ message))

end Mintage.Sha2
