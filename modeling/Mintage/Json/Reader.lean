import Mintage.Json.Draft
import Mintage.Text.Quoted

/-!
# Reading values from JSON

A `Reader α` makes an `α` of a draft or says what is wrong first. This module has the readers of
plain values: strings, numbers, lists, pairs and values of any form. Structures with named fields
are read by the records of `Mintage.Json.Record`.
-/

namespace Mintage.Json

/-- Why a draft is not the form of a value. -/
inductive ReadError where
  /-- The text is no JSON. -/
  | malformed (fault : Fault)
  | missingField (name : String)
  | duplicateField (name : String)
  /-- The value is of another sort. -/
  | invalidType (found expected : String)
  /-- The value is of the right sort, but outside its range. -/
  | invalidValue (found expected : String)
  /-- An array is too short. -/
  | invalidLength (length : Nat) (expected : String)
  /-- An array has `length` items, which are too many. -/
  | surplus (length : Nat)
  /-- Where a variant should stand is neither a name nor an object. -/
  | noVariant (found : String)
  /-- The object of a variant has no member or several. -/
  | severalVariants
  | unknownVariant (name : String) (expected : List String)
  /-- A text is no RFC 3339 time. -/
  | invalidTimestamp
  /-- The value has the right form, but the type that it stands for refuses it. -/
  | refused (message : String)
deriving DecidableEq

/-- A list of names as a choice. -/
def oneOf (names : List String) : String :=
  match names.map fun n => "`" ++ n ++ "`" with
  | [] => "there are no variants"
  | [a] => "expected " ++ a
  | [a, b] => "expected " ++ a ++ " or " ++ b
  | all => "expected one of " ++ ", ".intercalate all

/-- The wording of an error. A reader of text does not look beyond the character that is wrong, so
that it has the words of a fault for what is the matter with a whole value. -/
def ReadError.message : ReadError → String
  | .malformed fault => fault.message
  | .surplus _ => Fault.trailingCharacters.message
  | .noVariant _ | .severalVariants => Fault.expectedValue.message
  | .missingField name => "missing field `" ++ name ++ "`"
  | .duplicateField name => "duplicate field `" ++ name ++ "`"
  | .invalidType found expected => s!"invalid type: {found}, expected {expected}"
  | .invalidValue found expected => s!"invalid value: {found}, expected {expected}"
  | .invalidLength length expected => s!"invalid length {length}, expected {expected}"
  | .unknownVariant name expected => "unknown variant `" ++ name ++ "`, " ++ oneOf expected
  | .invalidTimestamp => "invalid timestamp"
  | .refused message => message

/-- The error of a reader that was not given a text but a value, and so can see the whole of it. -/
def ReadError.ofValue : ReadError → ReadError
  | .surplus length => .invalidLength length "fewer elements in array"
  | .noVariant found => .invalidType found "string or map"
  | .severalVariants => .invalidValue "map" "map with a single key"
  | e => e

/-- Makes a value of a draft. -/
abbrev Reader (α : Type) := Draft → Except ReadError α

/-- What a number is called where another sort of value was expected. -/
def Number.sort : Number → String
  | .int i => s!"integer `{i}`"
  | .float x => "floating point `" ++ x.scientific ++ "`"

/-- What a string is called where another sort of value was expected. -/
def textSort (s : String) : String := "string " ++ Quoted.render s

namespace Draft

/-- What is met where another sort of value was expected. -/
def sort : Draft → Except Fault String
  | .null => .ok "null"
  | .bool b => .ok s!"boolean `{b}`"
  | .num n => n.value.map Number.sort
  | .str s => s.value.map textSort
  | .arr _ _ | .buried (.arr _ _) => .ok "sequence"
  | .obj _ _ | .buried _ => .ok "map"
  | .misspelled _ fault | .missing fault => .error fault

/-- The error of a reader that met a value of another sort. -/
def mismatch (expected : String) (d : Draft) : ReadError :=
  match d.sort with
  | .ok found => .invalidType found expected
  | .error fault => .malformed fault

/-- Reads a string; `expected` says what it stands for. -/
def readText (expected : String) : Reader String
  | .str ⟨.ok s, _⟩ => .ok s
  | d => .error (d.mismatch expected)

/-- Reads a string. -/
def readString : Reader String := readText "a string"

/-- Reads a truth value. -/
def readBool : Reader Bool
  | .bool b => .ok b
  | d => .error (d.mismatch "a boolean")

/-- Reads a natural number of at most `bits` bits. -/
def readNat (bits : Nat) : Reader Nat
  | .num ⟨.ok (.int i), _⟩ =>
    if 0 ≤ i ∧ i < 2 ^ bits then .ok i.toNat
    else .error (.invalidValue s!"integer `{i}`" s!"u{bits}")
  | d => .error (d.mismatch s!"u{bits}")

/-- Reads a number of 8 bits. -/
def readU8 : Reader UInt8 := fun d => UInt8.ofNat <$> readNat 8 d

/-- Reads a number of 64 bits. -/
def readU64 : Reader UInt64 := fun d => UInt64.ofNat <$> readNat 64 d

/-- Reads an integer between `-2 ^ (bits - 1)` and `2 ^ (bits - 1) - 1`. -/
def readInt (bits : Nat) : Reader Int
  | .num ⟨.ok (.int i), _⟩ =>
    if -2 ^ (bits - 1) ≤ i ∧ i < 2 ^ (bits - 1) then .ok i
    else .error (.invalidValue s!"integer `{i}`" s!"i{bits}")
  | d => .error (d.mismatch s!"i{bits}")

/-- Reads a value that may be null. -/
def readOption {α : Type} (read : Reader α) : Reader (Option α)
  | .null => .ok none
  | .misspelled true fault => .error (.malformed fault)
  | d => some <$> read d

/-- Succeeds if there is no fault. -/
def noFault (fault : Option Fault) : Except ReadError Unit := (accept fault).mapError .malformed

/-- Reads an array item by item. -/
def readList {α : Type} (read : Reader α) : Reader (List α)
  | .arr items ending => do
    let xs ← items.mapM read
    noFault ending.wantItem
    return xs
  | .buried (.arr _ _) => .error (.malformed .tooDeep)
  | d => .error (d.mismatch "a sequence")

/-- The next item of an array of fixed length, of which `index` have been read. -/
def nextItem {α : Type} (read : Reader α) (expected : String) (index : Nat)
    (ending : Ending) : List Draft → Except ReadError (α × List Draft)
  | item :: items => return (← read item, items)
  | [] => do
    noFault ending.wantItem
    throw (.invalidLength index expected)

/-- What remains of an array of `size` items has to be nothing. -/
def needEnd (size : Nat) (ending : Ending) : List Draft → Except ReadError Unit
  | [] => noFault ending.wantNoItem
  | rest => .error (.surplus (size + rest.length))

/-- Reads an array of two items. -/
def readPair {α β : Type} (first : Reader α) (second : Reader β) : Reader (α × β)
  | .arr items ending => do
    let (a, items) ← nextItem first "a tuple of size 2" 0 ending items
    let (b, items) ← nextItem second "a tuple of size 2" 1 ending items
    needEnd 2 ending items
    return (a, b)
  | .buried (.arr _ _) => .error (.malformed .tooDeep)
  | d => .error (d.mismatch "a tuple of size 2")

/-- Reads a string and makes a value of it. -/
def readParsed {α ε : Type} (parse : String → Except ε α) (message : ε → String) : Reader α :=
  fun d => do
    let s ← readString d
    match parse s with
    | .ok a => return a
    | .error e => throw (.refused (message e))

/-- Succeeds if a token can be read. -/
def readToken {α : Type} (t : Token α) : Except ReadError α := t.value.mapError .malformed

/-- Whoever sees the whole of an object notices at once that it has several members. -/
def needAlone (more : List (Token String × Draft)) (ending : Ending) : Except ReadError Unit :=
  if ending = .whole ∧ ¬ more.isEmpty then .error .severalVariants else .ok ()

/-- What has to follow the one member of an object. -/
def needSingle (more : List (Token String × Draft)) (ending : Ending) : Except ReadError Unit :=
  if more.isEmpty then noFault ending.wantNoMember else .error .severalVariants

/-- A value of one of several named variants: its name, and the content that stands behind the name
in an object. The last result is what has to follow the content. -/
def variant : Draft → Except ReadError (String × Option Draft × Except ReadError Unit)
  | .str s => return (← readToken s, none, .ok ())
  | .obj ((name, content) :: more) ending => do
    needAlone more ending
    return (← readToken name, some content, needSingle more ending)
  | .obj [] ending =>
    match ending with
    | .closed | .whole => .error .severalVariants
    | .other => .error (.malformed .nameNotString)
    | _ => .error (.malformed .endOfValue)
  | .missing fault => .error (.malformed fault)
  | .buried (.obj _ _) => .error (.malformed .tooDeep)
  | d =>
    match d.sort with
    | .ok found => .error (.noVariant found)
    | .error _ => .error (.malformed .expectedValue)

/-- Reads the name of one of several variants without content. -/
def readName {α : Type} (variants : List (String × α)) : Reader α := fun d => do
  let (name, content, close) ← variant d
  match variants.lookup name with
  | none => throw (.unknownVariant name (variants.map (·.1)))
  | some a =>
    match content with
    | none => return a
    | some .null =>
      close
      return a
    | some d => throw (d.mismatch "unit")

/-- Of several members with one name only the last one stays. -/
def keepLast : List (String × Json) → List (String × Json)
  | [] => []
  | m :: ms => if ms.any (·.1 = m.1) then keepLast ms else m :: keepLast ms

/-- The members of an object as they are kept: one for each name, in the order of the names. -/
def sortMembers (ms : List (String × Json)) : List (String × Json) :=
  (keepLast ms).mergeSort fun m n => m.1 ≤ n.1

mutual

/-- Reads a value of any form. Of several members with one name the last one counts, and objects are
sorted by the names of their members. -/
def readAny : Draft → Except ReadError Json
  | .null => .ok .null
  | .bool b => .ok (.bool b)
  | .num n => Json.num <$> readToken n
  | .str s => Json.str <$> readToken s
  | .arr items ending => do
    let xs ← readAnyItems items
    noFault ending.wantItem
    return .arr xs
  | .obj members ending => do
    let ms ← readAnyMembers members
    noFault (ending.wantMember members.isEmpty)
    return .obj (sortMembers ms)
  | .buried _ => .error (.malformed .tooDeep)
  | .misspelled _ fault | .missing fault => .error (.malformed fault)

/-- Reads the items of an array. -/
def readAnyItems : List Draft → Except ReadError (List Json)
  | [] => .ok []
  | item :: items => return (← readAny item) :: (← readAnyItems items)

/-- Reads the members of an object. -/
def readAnyMembers : List (Token String × Draft) → Except ReadError (List (String × Json))
  | [] => .ok []
  | (name, value) :: members =>
    return (← readToken name, ← readAny value) :: (← readAnyMembers members)

end

end Draft

/-- Reads a whole text from its bytes. -/
def readBytes {α : Type} (read : Reader α) (bytes : Bytes) : Except ReadError α := do
  let (d, fault) := Draft.ofBytes bytes
  let a ← read d
  Draft.noFault fault
  return a

/-- Reads a whole text. -/
def readDocument {α : Type} (read : Reader α) (text : String) : Except ReadError α :=
  readBytes read (Utf8.encode text)

end Mintage.Json

namespace Mintage

/-- Types whose values are written in JSON. -/
class ToJson (α : Type) where
  toJson : α → Json

/-- Types whose values are read from JSON. -/
class FromJson (α : Type) where
  readJson : Json.Reader α

end Mintage
