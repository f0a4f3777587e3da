import Mintage.Bytes.Hex
import Mintage.Digest.Blake2b
import Mintage.Json.Reader

/-!
# Hashes as text

The hashes of deploys and of their bodies are written in hexadecimal without any mark in front.
-/

namespace Mintage.Digest

/-- Why a text is no hash. -/
inductive Error where
  | notHex (fault : Hex.Error)
  | wrongLength (length : Nat)
deriving DecidableEq

/-- The wording of an error. -/
def Error.message : Error → String
  | .notHex fault => "Not a valid hex string: " ++ fault.message
  | .wrongLength length => s!"A hash must be exactly 32 bytes, but {length} were given."

/-- The text of a hash. -/
def text (d : Digest) : String := Hex.encode d.bytes

/-- Reads the text of a hash. -/
def parse (s : String) : Except Error Digest :=
  match Hex.decode s with
  | .error fault => .error (.notHex fault)
  | .ok bs =>
    match Block.ofBytes? 32 bs with
    | some d => .ok d
    | none => .error (.wrongLength bs.length)

/-- Written as text. -/
def toJson (d : Digest) : Json := .str d.text

/-- Reads the text of a hash. -/
def readJson : Json.Reader Digest := Json.Draft.readParsed parse Error.message

instance : ToJson Digest := ⟨toJson⟩

instance : FromJson Digest := ⟨readJson⟩

end Mintage.Digest
