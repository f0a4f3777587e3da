import Mintage.Json.Reader

/-!
# Structures with named fields in JSON

A structure is written as an object with one member per field, or as an array of its fields in
order. Members may come in any order; members of other names are passed over. A `Record α` says how
to read such a structure. Records are put together by `<$>` and `<*>` from single fields, in the
order in which the fields are declared: that is the order of the array, and the order in which
missing fields are noticed.
-/

namespace Mintage.Json

/-- How to read a structure with named fields. -/
structure Record (α : Type) : Type 1 where
  /-- What has been read of the fields so far. -/
  State : Type
  /-- No field has been read. -/
  start : State
  /-- Takes a member, if its name is one of the fields. -/
  take? : State → String → Draft → Option (Except ReadError State)
  /-- The structure, or the first field that is missing. -/
  finish : State → Except ReadError α
  /-- How many fields there are. -/
  size : Nat
  /-- Reads the fields from the items of an array, of which a number has been read before. -/
  fromItems : (expected : String) → (index : Nat) → Ending → List Draft →
    Except ReadError (α × List Draft)

namespace Record

/-- A field. `absent` is its value if there is no such member, and `short` its value if an array
ends before it. -/
def field {α : Type} (name : String) (read : Reader α) (absent short : Option α) : Record α where
  State := Option α
  start := none
  take? := fun seen key d =>
    if key = name then
      some (match seen with
        | some _ => .error (.duplicateField name)
        | none => some <$> read d)
    else none
  finish := fun seen =>
    match seen.or absent with
    | some a => .ok a
    | none => .error (.missingField name)
  size := 1
  fromItems := fun expected index ending items =>
    match items, short with
    | [], some a => do
      Draft.noFault ending.wantItem
      return (a, [])
    | _, _ => Draft.nextItem read expected index ending items

/-- A field that has to be present. -/
def required {α : Type} (name : String) (read : Reader α) : Record α := field name read none none

/-- A field that may be absent or null. -/
def optional {α : Type} (name : String) (read : Reader α) : Record (Option α) :=
  field name (Draft.readOption read) (some none) none

/-- A field that has the value `a` if it is absent, also at the end of an array. -/
def defaulted {α : Type} (name : String) (read : Reader α) (a : α) : Record α :=
  field name read (some a) (some a)

/-- A field that may be absent or null, also at the end of an array. -/
def optionalTail {α : Type} (name : String) (read : Reader α) : Record (Option α) :=
  defaulted name (Draft.readOption read) none

/-- No field. -/
def done {α : Type} (a : α) : Record α where
  State := Unit
  start := ()
  take? := fun _ _ _ => none
  finish := fun _ => .ok a
  size := 0
  fromItems := fun _ _ _ items => .ok (a, items)

/-- The fields of two records, those of the first one in front. -/
def and {α β : Type} (first : Record α) (second : Record β) : Record (α × β) where
  State := first.State × second.State
  start := (first.start, second.start)
  take? := fun (s, t) key d =>
    match first.take? s key d with
    | some r => some (r.map fun s => (s, t))
    | none => (second.take? t key d).map fun r => r.map fun t => (s, t)
  finish := fun (s, t) => do
    let a ← first.finish s
    let b ← second.finish t
    return (a, b)
  size := first.size + second.size
  fromItems := fun expected index ending items => do
    let (a, items) ← first.fromItems expected index ending items
    let (b, items) ← second.fromItems expected (index + first.size) ending items
    return ((a, b), items)

/-- Makes another structure of the same fields. -/
def map {α β : Type} (f : α → β) (r : Record α) : Record β where
  State := r.State
  start := r.start
  take? := r.take?
  finish := fun s => f <$> r.finish s
  size := r.size
  fromItems := fun expected index ending items => do
    let (a, items) ← r.fromItems expected index ending items
    return (f a, items)

instance : Functor Record where
  map := map

instance : Seq Record where
  seq f r := map (fun (f, a) => f a) (f.and (r ()))

/-- Takes the members of an object in order; those of other names are passed over. -/
def takeAll {α : Type} (r : Record α) :
    r.State → List (Token String × Draft) → Except ReadError r.State
  | s, [] => .ok s
  | s, (name, d) :: members => do
    match r.take? s (← Draft.readToken name) d with
    | some result => takeAll r (← result) members
    | none =>
      d.passOver.mapError .malformed
      takeAll r s members

/-- Reads the structure called `title` from an object or an array. -/
def read {α : Type} (r : Record α) (title : String) : Reader α
  | .obj members ending => do
    let s ← r.takeAll r.start members
    Draft.noFault (ending.wantMember members.isEmpty)
    r.finish s
  | .arr items ending => do
    let expected := s!"{title} with {r.size} element" ++ if r.size = 1 then "" else "s"
    let (a, items) ← r.fromItems expected 0 ending items
    Draft.needEnd r.size ending items
    return a
  | .buried _ => .error (.malformed .tooDeep)
  | d => .error (d.mismatch title)

end Record

end Mintage.Json
