import Mintage.Json.Token

/-!
# Drafts of JSON text

A text is read from the front, and whoever reads a value from it complains about the first thing
that is wrong: an unsuitable member, say, even if the text breaks off behind it. What is wrong also
depends on the reader. One who wants another item finds a comma too many where one who has all the
items finds that the array does not end, and whoever passes over a member that nobody asked for
does not mind what its strings stand for. A `Draft` is what such readers meet: the tree of the
values that the text begins. Behind the items of an array it says how the array ends, and readers
make a fault of that ending as they need.

`Draft.ofBytes` makes the draft of a text, `Draft.passOver` passes over it, and `Json.toDraft` gives
the draft of a value.
-/

namespace Mintage.Json

/-- What follows the items of an array or the members of an object. -/
inductive Ending where
  /-- The closing bracket. -/
  | closed
  /-- Nothing, since there is no text; whoever reads a value sees the whole of it at once. -/
  | whole
  /-- The end of the text. -/
  | endOfText
  /-- A comma, and behind it the end of the text. -/
  | commaEndOfText
  /-- A comma, and behind it the closing bracket. -/
  | commaClosed
  /-- A comma, and behind it something that begins no member. -/
  | commaOther
  /-- Something that is neither a comma nor the closing bracket. -/
  | other
  /-- The last item or member is itself incomplete. -/
  | within
deriving DecidableEq

/-- A JSON text as its reader meets it. -/
inductive Draft where
  | null
  | bool (b : Bool)
  | num (n : Token Number)
  | str (s : Token String)
  | arr (items : List Draft) (ending : Ending)
  | obj (members : List (Token String × Draft)) (ending : Ending)
  /-- An array or object nested too deeply to be read. -/
  | buried (inner : Draft)
  /-- A word such as `true` or, if `isNull`, the word `null`, that is misspelled. -/
  | misspelled (isNull : Bool) (fault : Fault)
  /-- No value begins here. -/
  | missing (fault : Fault)

/-- The fault of an array that another item is wanted of. -/
def Ending.wantItem : Ending → Option Fault
  | .closed | .whole => none
  | .commaEndOfText => some .endOfValue
  | .commaClosed => some .trailingComma
  | .commaOther | .other => some .expectedListCommaOrEnd
  | .endOfText | .within => some .endOfList

/-- The fault of an array that no other item is wanted of. -/
def Ending.wantNoItem : Ending → Option Fault
  | .closed | .whole => none
  | .commaClosed => some .trailingComma
  | .commaEndOfText | .commaOther | .other => some .trailingCharacters
  | .endOfText | .within => some .endOfList

/-- The fault of an object that another member is wanted of; `first` if it has none so far. -/
def Ending.wantMember (first : Bool) : Ending → Option Fault
  | .closed | .whole => none
  | .commaEndOfText => some .endOfValue
  | .commaClosed => some .trailingComma
  | .commaOther => some .nameNotString
  | .other => some (if first then .nameNotString else .expectedObjectCommaOrEnd)
  | .endOfText | .within => some .endOfObject

/-- The fault of an object that has the one member it needs. -/
def Ending.wantNoMember : Ending → Option Fault
  | .closed | .whole => none
  | .commaEndOfText | .commaClosed | .commaOther | .other => some .expectedValue
  | .endOfText | .within => some .endOfObject

/-- The fault of an array that is passed over. -/
def Ending.passArray : Ending → Option Fault
  | .closed | .whole => none
  | .commaEndOfText => some .endOfValue
  | .commaClosed => some .expectedValue
  | .commaOther | .other => some .expectedListCommaOrEnd
  | .endOfText | .within => some .endOfList

/-- The fault of an object that is passed over; `first` if it has no members. -/
def Ending.passObject (first : Bool) : Ending → Option Fault
  | .closed | .whole => none
  | .commaClosed | .commaOther => some .nameNotString
  | .other => some (if first then .nameNotString else .expectedObjectCommaOrEnd)
  | .commaEndOfText | .endOfText | .within => some .endOfObject

namespace Draft

instance : Inhabited Draft := ⟨.null⟩

/-- Succeeds if there is no fault. -/
def accept : Option Fault → Except Fault Unit
  | none => .ok ()
  | some fault => .error fault

mutual

/-- Passes over a value that nobody asked for. -/
def passOver : Draft → Except Fault Unit
  | .null | .bool _ => .ok ()
  | .num n => accept n.passing
  | .str s => accept s.passing
  | .arr items ending => do
    passItems items
    accept ending.passArray
  | .obj members ending => do
    passMembers members
    accept (ending.passObject members.isEmpty)
  | .buried inner => inner.passOver
  | .misspelled _ fault | .missing fault => .error fault

/-- Passes over the items of an array. -/
def passItems : List Draft → Except Fault Unit
  | [] => .ok ()
  | item :: items => do
    item.passOver
    passItems items

/-- Passes over the members of an object. -/
def passMembers : List (Token String × Draft) → Except Fault Unit
  | [] => .ok ()
  | (name, value) :: members => do
    accept name.passing
    value.passOver
    passMembers members

end

/-! ## The draft of a text

The functions return the rest of the text as well. Behind a value that is incomplete in itself
there is none. -/

/-- How deeply arrays and objects may be nested. -/
def depthLimit : Nat := 127

/-- A word of which the first letter has been read. -/
def word (value : Draft) (isNull : Bool) (expected : List Char) (bs : Bytes) :
    Draft × Option Bytes :=
  match Token.word expected bs with
  | .ok rest => (value, some rest)
  | .error fault => (.misspelled isNull fault, none)

/-- The rest of a text behind a token. -/
def behind {α : Type} (t : Token α) (rest : Bytes) : Option Bytes :=
  if t.passing.isNone then some rest else none

/-- A number behind its sign. -/
def number (negative : Bool) (bs : Bytes) : Draft × Option Bytes :=
  let (n, rest) := Token.number negative bs
  (.num n, behind n rest)

/-- A container that is buried if no more nesting is allowed. -/
def bury (depth : Nat) (container : Draft) : Draft :=
  if depth = 0 then .buried container else container

mutual

/-- Reads a value at the front of a text. -/
def value : (fuel depth : Nat) → Bytes → Draft × Option Bytes
  | 0, _, _ => (.missing .endOfValue, none)
  | fuel + 1, depth, bs =>
    match Token.next? bs with
    | none => (.missing .endOfValue, none)
    | some ('n', rest) => word .null true "ull".toList rest
    | some ('t', rest) => word (.bool true) false "rue".toList rest
    | some ('f', rest) => word (.bool false) false "alse".toList rest
    | some ('"', rest) =>
      let (s, rest) := Token.string rest
      (.str s, behind s rest)
    | some ('-', rest) => number true rest
    | some ('[', rest) =>
      let (found, ending, rest) := items fuel (depth - 1) true rest
      (bury depth (.arr found ending), rest)
    | some ('{', rest) =>
      let (found, ending, rest) := members fuel (depth - 1) true rest
      (bury depth (.obj found ending), rest)
    | some (c, rest) =>
      if c.isDigit then number false (c.toUInt8 :: rest) else (.missing .expectedValue, none)

/-- Reads the items of an array; `first` if none has been read. -/
def items : (fuel depth : Nat) → (first : Bool) → Bytes → List Draft × Ending × Option Bytes
  | 0, _, _, _ => ([], .endOfText, none)
  | fuel + 1, depth, first, bs =>
    match Token.next? bs, first with
    | none, _ => ([], .endOfText, none)
    | some (']', rest), _ => ([], .closed, some rest)
    | some (',', rest), false =>
      match Token.next? rest with
      | none => ([], .commaEndOfText, none)
      | some (']', _) => ([], .commaClosed, none)
      | some _ => itemsFrom fuel depth rest
    | some _, false => ([], .other, none)
    | some _, true => itemsFrom fuel depth bs

/-- Reads an item and those behind it. -/
def itemsFrom : (fuel depth : Nat) → Bytes → List Draft × Ending × Option Bytes
  | 0, _, _ => ([], .endOfText, none)
  | fuel + 1, depth, bs =>
    match value fuel depth bs with
    | (item, none) => ([item], .within, none)
    | (item, some rest) =>
      let (more, ending, rest) := items fuel depth false rest
      (item :: more, ending, rest)

/-- Reads the members of an object; `first` if none has been read. -/
def members : (fuel depth : Nat) → (first : Bool) → Bytes →
    List (Token String × Draft) × Ending × Option Bytes
  | 0, _, _, _ => ([], .endOfText, none)
  | fuel + 1, depth, first, bs =>
    match Token.next? bs, first with
    | none, _ => ([], .endOfText, none)
    | some ('}', rest), _ => ([], .closed, some rest)
    | some ('"', rest), true => membersFrom fuel depth rest
    | some (',', rest), false =>
      match Token.next? rest with
      | none => ([], .commaEndOfText, none)
      | some ('}', _) => ([], .commaClosed, none)
      | some ('"', rest) => membersFrom fuel depth rest
      | some _ => ([], .commaOther, none)
    | some _, _ => ([], .other, none)

/-- Reads a member behind the opening quote of its name, and those behind it. -/
def membersFrom : (fuel depth : Nat) → Bytes →
    List (Token String × Draft) × Ending × Option Bytes
  | 0, _, _ => ([], .endOfText, none)
  | fuel + 1, depth, bs =>
    let (name, rest) := Token.string bs
    match behind name rest with
    | none => ([(name, .missing .endOfValue)], .within, none)
    | some rest =>
      match Token.next? rest with
      | some (':', rest) =>
        match value fuel depth rest with
        | (v, none) => ([(name, v)], .within, none)
        | (v, some rest) =>
          let (more, ending, rest) := members fuel depth false rest
          ((name, v) :: more, ending, rest)
      | none => ([(name, .missing .endOfObject)], .within, none)
      | some _ => ([(name, .missing .expectedColon)], .within, none)

end

/-- The draft of a text, and the fault behind its value, if the value itself is complete. -/
def ofBytes (bs : Bytes) : Draft × Option Fault :=
  match value (3 * bs.length + 3) depthLimit bs with
  | (d, none) => (d, none)
  | (d, some rest) => (d, (Token.next? rest).map fun _ => .trailingCharacters)

end Draft

/-! ## Drafts of values -/

mutual

/-- The draft of a value: everything in it can be read. -/
def toDraft : Json → Draft
  | .null => .null
  | .bool b => .bool b
  | .num n => .num (.of n)
  | .str s => .str (.of s)
  | .arr items => .arr (toDraftItems items) .whole
  | .obj members => .obj (toDraftMembers members) .whole

/-- The drafts of the items of an array. -/
def toDraftItems : List Json → List Draft
  | [] => []
  | item :: items => item.toDraft :: toDraftItems items

/-- The drafts of the members of an object. -/
def toDraftMembers : List (String × Json) → List (Token String × Draft)
  | [] => []
  | (name, value) :: members => (.of name, value.toDraft) :: toDraftMembers members

end

theorem toDraftItems_eq_map (items : List Json) : toDraftItems items = items.map toDraft := by
  induction items with
  | nil => rfl
  | cons item items ih => simp [toDraftItems, ih]

theorem toDraftMembers_eq_map (members : List (String × Json)) :
    toDraftMembers members = members.map fun m => (.of m.1, m.2.toDraft) := by
  induction members with
  | nil => rfl
  | cons m members ih => simp [toDraftMembers, ih]

end Mintage.Json
