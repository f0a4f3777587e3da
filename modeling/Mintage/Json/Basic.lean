import Mintage.Number.Binary64
import Mintage.Bytes.Hex

/-!
# JSON values

Values as they are written to the node, to configuration files and to the terminal. Members of an
object keep their order. Integers are exact; any other number is a binary floating-point number.
-/

namespace Mintage

/-- A number in JSON. -/
inductive Json.Number where
  /-- An integer. -/
  | int (i : Int)
  /-- A number with a fraction or an exponent, or an integer too large for 64 bits. -/
  | float (x : Binary64)
deriving DecidableEq

/-- A JSON value. -/
inductive Json where
  | null
  | bool (b : Bool)
  | num (n : Json.Number)
  | str (s : String)
  | arr (items : List Json)
  | obj (members : List (String × Json))

namespace Json

instance : Inhabited Json := ⟨.null⟩

/-- A natural number as a value. -/
def ofNat (n : Nat) : Json := .num (.int n)

/-- The members of an object that are present. -/
def members (ms : List (Option (String × Json))) : Json := .obj (ms.filterMap id)

/-- A member that is always written. -/
def member (name : String) (value : Json) : Option (String × Json) := some (name, value)

/-- A member that is written only if it has a value. -/
def member? {α : Type} (name : String) (toJson : α → Json) (value : Option α) :
    Option (String × Json) :=
  value.map fun a => (name, toJson a)

/-! ## Text -/

/-- A character within a quoted string. -/
def escapeChar (c : Char) : String :=
  if c = '"' then "\\\""
  else if c = '\\' then "\\\\"
  else if c = '\n' then "\\n"
  else if c = '\r' then "\\r"
  else if c = '\t' then "\\t"
  else if c.toNat = 8 then "\\b"
  else if c.toNat = 12 then "\\f"
  else if c.toNat < 0x20 then
    "\\u00" ++ String.ofList [Hex.digit (c.toNat / 16), Hex.digit (c.toNat % 16)]
  else c.toString

/-- A quoted string. -/
def quote (s : String) : String := "\"" ++ String.join (s.toList.map escapeChar) ++ "\""

/-- The text of a number. -/
def Number.render : Number → String
  | .int i => toString i
  | .float x => x.scientific

mutual

/-- The text of a value, without blanks. -/
def render : Json → String
  | .null => "null"
  | .bool b => if b then "true" else "false"
  | .num n => n.render
  | .str s => quote s
  | .arr items => "[" ++ ",".intercalate (renderItems items) ++ "]"
  | .obj members => "\x7b" ++ ",".intercalate (renderMembers members) ++ "\x7d"

/-- The texts of the items of an array. -/
def renderItems : List Json → List String
  | [] => []
  | item :: items => item.render :: renderItems items

/-- The texts of the members of an object. -/
def renderMembers : List (String × Json) → List String
  | [] => []
  | (name, value) :: members => (quote name ++ ":" ++ value.render) :: renderMembers members

end

mutual

/-- The text of a value over several lines, which begins at a line indented by `indent` blanks. -/
def renderLines (indent : Nat) : Json → String
  | .arr [] => "[]"
  | .arr items =>
    "[\n" ++ ",\n".intercalate (renderItemLines (indent + 2) items) ++ "\n" ++
      "".pushn ' ' indent ++ "]"
  | .obj [] => "\x7b\x7d"
  | .obj members =>
    "\x7b\n" ++ ",\n".intercalate (renderMemberLines (indent + 2) members) ++ "\n" ++
      "".pushn ' ' indent ++ "\x7d"
  | .null => "null"
  | .bool b => if b then "true" else "false"
  | .num n => n.render
  | .str s => quote s

/-- The items of an array on indented lines. -/
def renderItemLines (indent : Nat) : List Json → List String
  | [] => []
  | item :: items =>
    ("".pushn ' ' indent ++ renderLines indent item) :: renderItemLines indent items

/-- The members of an object on indented lines. -/
def renderMemberLines (indent : Nat) : List (String × Json) → List String
  | [] => []
  | (name, value) :: members =>
    ("".pushn ' ' indent ++ quote name ++ ": " ++ renderLines indent value) ::
      renderMemberLines indent members

end

/-- The text of a value over several lines, each level indented by two blanks. -/
def pretty (j : Json) : String := renderLines 0 j

/-- The member of an object with the given name; the last one, if there are several. -/
def get? (name : String) : Json → Option Json
  | .obj members => (members.reverse.find? (·.1 = name)).map (·.2)
  | _ => none

end Json

end Mintage
