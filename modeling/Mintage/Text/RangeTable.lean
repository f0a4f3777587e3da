import Mintage.Bytes.Hex

/-!
# Tables over the characters

A property of characters is given by ranges of their numbers. `RangeTable.ofLines` reads such a
table from lines like `41-5a:L aa:L`, in which numbers are hexadecimal, and ranges stand in
ascending order; a range of one character is written as its number alone, and a table that only
says which characters have a property has no values behind colons. Characters in none of the ranges
have no value.
-/

namespace Mintage

/-- What holds of the characters from `low` to `high`. -/
structure RangeTable.Row (α : Type) where
  low : Nat
  high : Nat
  value : α

/-- A table over the characters. -/
structure RangeTable (α : Type) where
  /-- The rows, in ascending order. -/
  rows : Array (RangeTable.Row α)

namespace RangeTable

/-- The row that a number belongs to, if it is one of those from `first` up to, but not including,
`last`. -/
def search {α : Type} (rows : Array (Row α)) (n first last : Nat) : Option (Row α) :=
  if first < last then
    let middle := (first + last) / 2
    match rows[middle]? with
    | none => none
    | some row =>
      if n < row.low then search rows n first middle
      else if row.high < n then search rows n (middle + 1) last
      else some row
  else none
termination_by last - first

/-- The row of a character. -/
def row? {α : Type} (t : RangeTable α) (c : Char) : Option (Row α) :=
  search t.rows c.toNat 0 t.rows.size

/-- The value of a character. -/
def get? {α : Type} (t : RangeTable α) (c : Char) : Option α := (t.row? c).map (·.value)

/-- Whether a character is in the table. -/
def contains {α : Type} (t : RangeTable α) (c : Char) : Bool := (t.row? c).isSome

/-! ## Tables as text -/

/-- The value of hexadecimal digits. -/
def number (ds : List Char) : Nat := ds.foldl (fun n d => 16 * n + (Hex.value? d).getD 0) 0

/-- The characters whose numbers stand between commas. -/
def characters (entry : List Char) : List Char :=
  if entry.isEmpty then [] else (entry.splitOn ',').map fun ds => Char.ofNat (number ds)

/-- The row that an entry stands for; `value` reads what stands behind the colon. -/
def rowOfEntry {α : Type} (value : List Char → α) (entry : List Char) : Row α :=
  let range := entry.takeWhile (· ≠ ':')
  let low := range.takeWhile (· ≠ '-')
  let high := range.drop (low.length + 1)
  ⟨number low, number (if high.isEmpty then low else high), value (entry.drop (range.length + 1))⟩

/-- The table that is written on some lines. -/
def ofLines {α : Type} (value : List Char → α) (lines : List String) : RangeTable α :=
  ⟨(lines.flatMap fun line => (line.toList.splitOn ' ').map (rowOfEntry value)).toArray⟩

end RangeTable

/-- A set of characters. -/
abbrev CharSet := RangeTable Unit

/-- The set that is written on some lines. -/
def CharSet.ofLines (lines : List String) : CharSet := RangeTable.ofLines (fun _ => ()) lines

end Mintage
