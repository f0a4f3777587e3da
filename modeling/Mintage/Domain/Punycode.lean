import Mintage.Bytes

/-!
# Labels in plain letters

A label with letters of any script is written with plain ones: its plain letters in front of the
last dash, and behind it, in digits, where the others are inserted. The insertions are numbered:
number `i` inserts the character `n + i / (l + 1)` behind the first `i % (l + 1)` of `l` characters,
where `n` is the character inserted before, and the digits say how far the next number is ahead.

A number has its lowest digit in front and ends at the first digit that is smaller than a threshold,
which adapts to the numbers before it. Numbers have 32 bits.
-/

namespace Mintage.Domain.Punycode

/-- The value of a digit. -/
def digit? (c : Char) : Option Nat :=
  if 'a' ≤ c ∧ c ≤ 'z' then some (c.toNat - 'a'.toNat)
  else if 'A' ≤ c ∧ c ≤ 'Z' then some (c.toNat - 'A'.toNat)
  else if c.isDigit then some (c.toNat - '0'.toNat + 26)
  else none

/-- The number of digits. -/
def base : Nat := 36

/-- The threshold of the digit at `position`, which counts in steps of `base` from `base` on. -/
def threshold (bias position : Nat) : Nat := min 26 (max 1 (position - bias))

/-- Scales a distance down until it is small; also says by how many digits. -/
def scaleDown (distance digits : Nat) : Nat × Nat :=
  if _far : 455 < distance then scaleDown (distance / 35) (digits + 1) else (distance, digits)
termination_by distance
decreasing_by exact Nat.div_lt_self (by omega) (by omega)

/-- The bias behind a distance; `length` is the number of characters including the new one. -/
def adapt (isFirst : Bool) (distance length : Nat) : Nat :=
  let distance := if isFirst then distance / 700 else distance / 2
  let (distance, digits) := scaleDown (distance + distance / length) 0
  base * digits + base * distance / (distance + 38)

/-- Where a label is being decoded. -/
structure State where
  /-- The characters so far. -/
  text : List Char
  /-- The character inserted last, and the place behind it. -/
  char : Nat := 128
  place : Nat := 0
  bias : Nat := 72
  isFirst : Bool := true
  /-- What has been read of the present number, and what its next digit counts. -/
  distance : Nat := 0
  weight : Nat := 1
  position : Nat := base

/-- Inserts a character when its number has been read. -/
def State.insert (s : State) : Option State := do
  let length := s.text.length + 1
  let i := s.place + s.distance
  let char := s.char + i / length
  guard (i < 2 ^ 32 ∧ char.isValidChar)
  return {
    text := s.text.insertIdx (i % length) (Char.ofNat char)
    char
    place := i % length + 1
    bias := adapt s.isFirst s.distance length
    isFirst := false }

/-- Takes the next digit. -/
def State.take (s : State) (c : Char) : Option State := do
  let d ← digit? c
  let t := threshold s.bias s.position
  let s := { s with distance := s.distance + d * s.weight }
  if d < t then s.insert
  else
    let weight := s.weight * (base - t)
    guard (weight < 2 ^ 32)
    return { s with weight, position := s.position + base }

/-- The label that is written with plain letters. -/
def decode? (cs : List Char) : Option (List Char) := do
  let digits := (cs.reverse.takeWhile (· ≠ '-')).reverse
  let plain := cs.take (cs.length - digits.length - 1)
  let digits := if plain.isEmpty then cs else digits
  let s ← digits.foldlM State.take { text := plain }
  if s.position = base then some s.text else none

end Mintage.Domain.Punycode
