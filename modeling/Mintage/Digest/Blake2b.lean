import Mintage.Bytes

/-!
# BLAKE2b-256

The digest that names everything on the chain: deploys, accounts and dictionary items. It is the
unkeyed BLAKE2b function with a digest of 32 bytes. The state is eight words of 64 bits; each block
of 128 bytes is mixed into it in twelve rounds, together with the count of the bytes taken so far
and a mark on the last block.
-/

namespace Mintage

/-- A digest of 32 bytes. -/
abbrev Digest := Block 32

namespace Blake2b

/-- Eight words that initialise the state. -/
def initial : Vector UInt64 8 := #v[
  0x6a09e667f3bcc908, 0xbb67ae8584caa73b, 0x3c6ef372fe94f82b, 0xa54ff53a5f1d36f1,
  0x510e527fade682d1, 0x9b05688c2b3e6c1f, 0x1f83d9abfb41bd6b, 0x5be0cd19137e2179]

/-- The order in which each round takes the words of the block. -/
def schedule : List (Vector (Fin 16) 16) := [
  #v[0, 1, 2, 3, 4, 5, 6, 7, 8, 9, 10, 11, 12, 13, 14, 15],
  #v[14, 10, 4, 8, 9, 15, 13, 6, 1, 12, 0, 2, 11, 7, 5, 3],
  #v[11, 8, 12, 0, 5, 2, 15, 13, 10, 14, 3, 6, 7, 1, 9, 4],
  #v[7, 9, 3, 1, 13, 12, 11, 14, 2, 6, 5, 10, 4, 0, 15, 8],
  #v[9, 0, 5, 7, 2, 4, 10, 15, 14, 1, 11, 12, 6, 8, 3, 13],
  #v[2, 12, 6, 10, 0, 11, 8, 3, 4, 13, 7, 5, 15, 14, 1, 9],
  #v[12, 5, 1, 15, 14, 13, 4, 10, 0, 7, 6, 3, 9, 2, 8, 11],
  #v[13, 11, 7, 14, 12, 1, 3, 9, 5, 0, 15, 4, 8, 6, 2, 10],
  #v[6, 15, 14, 9, 11, 3, 0, 8, 12, 2, 13, 7, 1, 4, 10, 5],
  #v[10, 2, 8, 4, 7, 6, 1, 5, 15, 11, 9, 14, 3, 12, 13, 0],
  #v[0, 1, 2, 3, 4, 5, 6, 7, 8, 9, 10, 11, 12, 13, 14, 15],
  #v[14, 10, 4, 8, 9, 15, 13, 6, 1, 12, 0, 2, 11, 7, 5, 3]]

/-- A word rotated right by `k` bits, for `0 < k < 64`. -/
def rotateRight (x k : UInt64) : UInt64 := (x >>> k) ||| (x <<< (64 - k))

/-- Mixes two words of the block into a column or diagonal of the working state. -/
def mix (v : Vector UInt64 16) (a b c d : Fin 16) (x y : UInt64) : Vector UInt64 16 :=
  let va := v[a] + v[b] + x
  let vd := rotateRight (v[d] ^^^ va) 32
  let vc := v[c] + vd
  let vb := rotateRight (v[b] ^^^ vc) 24
  let va := va + vb + y
  let vd := rotateRight (vd ^^^ va) 16
  let vc := vc + vd
  let vb := rotateRight (vb ^^^ vc) 63
  (((v.set a va).set b vb).set c vc).set d vd

/-- One round: the four columns, then the four diagonals. -/
def round (m v : Vector UInt64 16) (s : Vector (Fin 16) 16) : Vector UInt64 16 :=
  let v := mix v 0 4 8 12 m[s[0]] m[s[1]]
  let v := mix v 1 5 9 13 m[s[2]] m[s[3]]
  let v := mix v 2 6 10 14 m[s[4]] m[s[5]]
  let v := mix v 3 7 11 15 m[s[6]] m[s[7]]
  let v := mix v 0 5 10 15 m[s[8]] m[s[9]]
  let v := mix v 1 6 11 12 m[s[10]] m[s[11]]
  let v := mix v 2 7 8 13 m[s[12]] m[s[13]]
  mix v 3 4 9 14 m[s[14]] m[s[15]]

/-- The sixteen words of a block, each of eight bytes, the lowest first. -/
def words (block : Bytes) : Vector UInt64 16 :=
  Vector.ofFn fun i => UInt64.ofNat (ofLittleEndian ((block.drop (8 * i.val)).take 8))

/-- Takes one block into the state, after which `count` bytes have been taken. -/
def compress (h : Vector UInt64 8) (block : Bytes) (count : Nat) (last : Bool) :
    Vector UInt64 8 :=
  let v := h ++ initial
  let v := v.set 12 (v[12] ^^^ UInt64.ofNat count)
  let v := v.set 13 (v[13] ^^^ UInt64.ofNat (count / 2 ^ 64))
  let v := if last then v.set 14 (v[14] ^^^ 0xffffffffffffffff) else v
  let v := schedule.foldl (round (words block)) v
  Vector.ofFn fun i => h[i] ^^^ v[i.val] ^^^ v[i.val + 8]

/-- Takes all bytes into the state, of which `count` have been taken before. Only the last block,
which may be empty, is marked. -/
def absorb (h : Vector UInt64 8) (count : Nat) (bs : Bytes) : Vector UInt64 8 :=
  if bs.length ≤ 128 then compress h bs (count + bs.length) true
  else absorb (compress h (bs.take 128) (count + 128) false) (count + 128) (bs.drop 128)
termination_by bs.length
decreasing_by simp; omega

/-- The state before any block: the digest is 32 bytes long and no key is used. -/
def start : Vector UInt64 8 := initial.set 0 (initial[0] ^^^ 0x01010020)

/-- The BLAKE2b-256 digest of a byte string. -/
def digest (bs : Bytes) : Digest :=
  let h := absorb start 0 bs
  ⟨(littleEndian 8 h[0].toNat ++ littleEndian 8 h[1].toNat) ++
    (littleEndian 8 h[2].toNat ++ littleEndian 8 h[3].toNat), by simp⟩

end Blake2b

end Mintage
