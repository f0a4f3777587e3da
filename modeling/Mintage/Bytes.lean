/-!
# Byte strings

Everything that is hashed, signed or sent is a list of bytes. A list, and not an array, carries the
laws: an encoding is a concatenation, and a decoder returns the bytes that it did not use.

A `Block n` is a byte string of exactly `n` bytes, the form of hashes, addresses, keys and
signatures. Numbers are laid out by `littleEndian` and `bigEndian` in a fixed number of bytes, and
read back by `ofLittleEndian` and `ofBigEndian`.
-/

-- What fits in `n` bytes is below a power of 256. Powers of naturals are those of the core library,
-- also where a theory of monoids is imported, so that definitions mean the same there.
attribute [instance (20000), default_instance (20000)] instPowNat

namespace Mintage

/-- A string of bytes. -/
abbrev Bytes := List UInt8

/-- A byte string of exactly `n` bytes. -/
structure Block (n : Nat) where
  /-- The bytes, in order. -/
  bytes : Bytes
  length_bytes : bytes.length = n
deriving DecidableEq

namespace Block

@[ext] theorem ext {n : Nat} {a b : Block n} (h : a.bytes = b.bytes) : a = b := by
  cases a; cases b; simp_all

/-- The block with the given bytes, if there are exactly `n` of them. -/
def ofBytes? (n : Nat) (bs : Bytes) : Option (Block n) :=
  if h : bs.length = n then some ⟨bs, h⟩ else none

/-- The block of the first `n` bytes; a byte that is missing is zero. -/
def ofPadded (n : Nat) (bs : Bytes) : Block n :=
  ⟨(bs.take n).rightpad n 0, by simp only [List.length_rightpad, List.length_take]; omega⟩

instance {n : Nat} : Inhabited (Block n) := ⟨⟨List.replicate n 0, by simp⟩⟩

theorem ofBytes?_bytes {n : Nat} (b : Block n) : ofBytes? n b.bytes = some b := by
  simp [ofBytes?, b.length_bytes]

theorem ofBytes?_eq_some_iff {n : Nat} {bs : Bytes} {b : Block n} :
    ofBytes? n bs = some b ↔ bs = b.bytes := by
  constructor
  · intro h
    unfold ofBytes? at h
    split at h
    · cases h; rfl
    · cases h
  · rintro rfl
    exact ofBytes?_bytes b

end Block

/-- Compares two byte strings as a dictionary does: the first difference decides, and a beginning
comes before what it begins. -/
def compareBytes : Bytes → Bytes → Ordering
  | [], [] => .eq
  | [], _ :: _ => .lt
  | _ :: _, [] => .gt
  | a :: as, b :: bs => (compare a.toNat b.toNat).then (compareBytes as bs)

/-- The `width` low bytes of a number, the lowest first. -/
def littleEndian : (width : Nat) → Nat → Bytes
  | 0, _ => []
  | width + 1, n => UInt8.ofNat n :: littleEndian width (n / 256)

/-- The number whose bytes are given, the lowest first. -/
def ofLittleEndian : Bytes → Nat
  | [] => 0
  | b :: bs => b.toNat + 256 * ofLittleEndian bs

/-- The `width` low bytes of a number, the highest first. -/
def bigEndian (width n : Nat) : Bytes := (littleEndian width n).reverse

/-- The number whose bytes are given, the highest first. -/
def ofBigEndian (bs : Bytes) : Nat := bs.foldl (fun n b => 256 * n + b.toNat) 0

@[simp] theorem length_littleEndian (width n : Nat) : (littleEndian width n).length = width := by
  induction width generalizing n with
  | zero => rfl
  | succ width ih => simp [littleEndian, ih]

@[simp] theorem length_bigEndian (width n : Nat) : (bigEndian width n).length = width := by
  simp [bigEndian]

theorem ofLittleEndian_littleEndian (width n : Nat) :
    ofLittleEndian (littleEndian width n) = n % 256 ^ width := by
  induction width generalizing n with
  | zero => simp [littleEndian, ofLittleEndian, Nat.mod_one]
  | succ width ih =>
    have low : (UInt8.ofNat n).toNat = n % 256 := by simp
    rw [littleEndian, ofLittleEndian, ih, low, Nat.pow_succ, Nat.mul_comm (256 ^ width) 256,
      Nat.mod_mul]

theorem ofLittleEndian_lt (bs : Bytes) : ofLittleEndian bs < 256 ^ bs.length := by
  induction bs with
  | nil => simp [ofLittleEndian]
  | cons b bs ih =>
    have hb : b.toNat < 256 := b.toNat_lt
    simp only [ofLittleEndian, List.length_cons, Nat.pow_succ]
    omega

/-- A block as a big-endian number. -/
def Block.toNat {n : Nat} (b : Block n) : Nat := ofBigEndian b.bytes

/-- A number as a big-endian block of `n` bytes. -/
def Block.ofNat (n k : Nat) : Block n := ⟨bigEndian n k, length_bigEndian n k⟩

/-- Blocks are ordered like their bytes. -/
instance {n : Nat} : Ord (Block n) := ⟨fun a b => compareBytes a.bytes b.bytes⟩

end Mintage
