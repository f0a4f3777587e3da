import Mintage.Json.Reader
import Mintage.Time.Calendar
import Mintage.Wire

/-!
# Points in time

A timestamp counts milliseconds from 1970 on. Its text is an RFC 3339 time in UTC with three decimal
places, and a reader takes any RFC 3339 time: with other offsets, other precision and leap seconds.
A year has four digits; the writer gives later years a sign and more digits, which readers do not
take.
-/

namespace Mintage

/-- Milliseconds since the beginning of 1970. -/
structure Timestamp where
  millis : UInt64
deriving DecidableEq

namespace Timestamp

/-- The milliseconds of a day. -/
def dayMillis : Nat := 86400000

/-- The last year that can be written. -/
def lastYear : Int := 262142

/-- A number with at least `width` digits. -/
def digits (width n : Nat) : String := String.ofList ((toString n).toList.leftpad width '0')

/-- A year: four digits, or a sign and more. -/
def yearText (y : Int) : String :=
  if 0 ≤ y ∧ y ≤ 9999 then digits 4 y.toNat
  else (if y < 0 then "-" else "+") ++ digits 4 y.natAbs

/-- The RFC 3339 text, unless the year is out of range. -/
def text? (t : Timestamp) : Option String :=
  let date := Calendar.Date.ofDays (t.millis.toNat / dayMillis : Nat)
  let ms := t.millis.toNat % dayMillis
  if date.year > lastYear then none
  else some (yearText date.year ++ "-" ++ digits 2 date.month ++ "-" ++ digits 2 date.day ++ "T" ++
    digits 2 (ms / 3600000) ++ ":" ++ digits 2 (ms / 60000 % 60) ++ ":" ++
    digits 2 (ms / 1000 % 60) ++ "." ++ digits 3 (ms % 1000) ++ "Z")

/-! ## Reading -/

/-- Takes exactly `n` digits off the front, behind the number `acc`. -/
def takeDigits? (acc : Nat) : (n : Nat) → List Char → Option (Nat × List Char)
  | 0, cs => some (acc, cs)
  | n + 1, c :: cs =>
    if c.isDigit then takeDigits? (10 * acc + (c.toNat - '0'.toNat)) n cs else none
  | _ + 1, [] => none

/-- Takes one character off the front. -/
def takeChar? (expected : Char → Bool) : List Char → Option (List Char)
  | c :: cs => if expected c then some cs else none
  | [] => none

/-- The milliseconds of a fraction of a second, if there is one. Nine digits count, but only the
first three reach milliseconds. -/
def takeFraction? : List Char → Option (Nat × List Char)
  | '.' :: cs =>
    let ds := cs.takeWhile Char.isDigit
    if ds.isEmpty then none
    else
      let firstThree := (ds ++ ['0', '0', '0']).take 3
      some (firstThree.foldl (fun n c => 10 * n + (c.toNat - '0'.toNat)) 0,
        cs.dropWhile Char.isDigit)
  | cs => some (0, cs)

/-- The offset from UTC in minutes, which ends the text. -/
def takeOffset? : List Char → Option Int
  | ['Z'] | ['z'] => some 0
  | sign :: cs => do
    let negative ←
      if sign = '+' then some false
      else if sign = '-' ∨ sign = '−' then some true
      else none
    let (hours, cs) ← takeDigits? 0 2 cs
    let cs ← takeChar? (· = ':') cs
    let (minutes, cs) ← takeDigits? 0 2 cs
    if cs.isEmpty ∧ hours < 24 ∧ minutes < 60 then
      let offset : Int := hours * 60 + minutes
      some (if negative then -offset else offset)
    else none
  | [] => none

/-- The milliseconds since 1970 of an RFC 3339 text. The second 60 is taken as the one after the
second 59. -/
def parseMillis? (s : String) : Option Int := do
  let (year, cs) ← takeDigits? 0 4 s.toList
  let cs ← takeChar? (· = '-') cs
  let (month, cs) ← takeDigits? 0 2 cs
  let cs ← takeChar? (· = '-') cs
  let (day, cs) ← takeDigits? 0 2 cs
  let cs ← takeChar? (fun c => c = 'T' || c = 't' || c = ' ') cs
  let (hour, cs) ← takeDigits? 0 2 cs
  let cs ← takeChar? (· = ':') cs
  let (minute, cs) ← takeDigits? 0 2 cs
  let cs ← takeChar? (· = ':') cs
  let (second, cs) ← takeDigits? 0 2 cs
  let (ms, cs) ← takeFraction? cs
  let offset ← takeOffset? cs
  let date : Calendar.Date := ⟨year, month, day⟩
  if date.isValid ∧ hour < 24 ∧ minute < 60 ∧ second ≤ 60 then
    some (date.toDays * dayMillis +
      (((hour * 60 + minute : Nat) : Int) - offset) * 60000 + second * 1000 + ms)
  else none

/-- Reads an RFC 3339 text. -/
def parse (s : String) : Except Json.ReadError Timestamp :=
  match parseMillis? s with
  | none => .error .invalidTimestamp
  | some ms =>
    if ms < 0 then .error (.refused "Timestamps before 1970 are not supported.")
    else .ok ⟨UInt64.ofNat ms.toNat⟩

/-- A timestamp too late to be written. -/
def outOfRange : String := "Timestamp out of range."

/-- Written as text, unless the year is out of range. -/
def toJson? (t : Timestamp) : Option Json := t.text?.map .str

/-- Reads a string with an RFC 3339 text. -/
def readJson : Json.Reader Timestamp := fun d => do parse (← d.readString)

instance : FromJson Timestamp := ⟨readJson⟩

/-- The binary form: eight bytes. -/
def encode (t : Timestamp) : Bytes := Wire.encodeU64 t.millis

end Timestamp

end Mintage
