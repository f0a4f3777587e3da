import Mintage.Bytes.Base64

/-!
# PEM

A PEM text carries bytes in base64 between two boundary lines that name what the bytes are. Before
the first boundary anything may stand, behind the second nothing but the end of its line. The body
has lines of exactly 64 characters, of which the last one may be shorter or empty.
-/

namespace Mintage.Pem

/-- What is behind the end of a line at the front. -/
def afterEol? : List Char → Option (List Char)
  | '\r' :: '\n' :: rest => some rest
  | '\r' :: rest => some rest
  | '\n' :: rest => some rest
  | _ => none

theorem length_of_afterEol? {cs rest : List Char} (h : afterEol? cs = some rest) :
    rest.length < cs.length := by
  unfold afterEol? at h
  split at h <;> cases h <;> simp only [List.length_cons] <;> omega

/-- What is before the end of a line at the back. -/
def beforeEol? (cs : List Char) : Option (List Char) :=
  match cs.reverse with
  | '\n' :: '\r' :: rest => some rest.reverse
  | '\n' :: rest => some rest.reverse
  | '\r' :: rest => some rest.reverse
  | _ => none

/-- What is behind `start` at the front. -/
def afterStart? : List Char → List Char → Option (List Char)
  | [], cs => some cs
  | a :: start, c :: cs => if a = c then afterStart? start cs else none
  | _ :: _, [] => none

/-- What is before `ending` at the back. -/
def beforeEnding? (ending cs : List Char) : Option (List Char) :=
  (afterStart? ending.reverse cs.reverse).map List.reverse

/-- What is behind the first boundary that stands at the beginning of a line, up to its label. -/
def afterPreamble? : List Char → Option (List Char)
  | cs => (afterStart? "-----BEGIN ".toList cs).or (search cs)
where
  /-- Goes to the next line that begins with the boundary. -/
  search : List Char → Option (List Char)
    | [] => none
    | '\x00' :: _ => none
    | '\n' :: cs => (afterStart? "-----BEGIN ".toList cs).or (search cs)
    | _ :: cs => search cs

/-- The characters of the lines of a body, without the line ends. -/
def joinLines? (body : List Char) : Option (List Char) :=
  if _short : body.length ≤ 64 then
    some ((beforeEol? body).getD body)
  else
    match _shorter : afterEol? (body.drop 64) with
    | none => none
    | some [] => some (body.take 64)
    | some more => (joinLines? more).map (body.take 64 ++ ·)
termination_by body.length
decreasing_by
  have := length_of_afterEol? _shorter
  simp only [List.length_drop] at this
  omega

/-- The bytes that a text carries under a label. -/
def decode? (label text : String) : Option Bytes := do
  let cs ← afterPreamble? text.toList
  let cs ← afterStart? (label.toList ++ "-----".toList) cs
  let cs ← afterEol? cs
  let cs ← beforeEnding? ("-----END ".toList ++ label.toList ++ "-----".toList)
    ((beforeEol? cs).getD cs)
  Base64.decode? (← joinLines? (← beforeEol? cs))

end Mintage.Pem
