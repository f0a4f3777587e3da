import Mintage.Bytes.Utf8

/-!
# Files

Keys, configurations and contract code come from files. A `File` is what reading one gave: its bytes
or the reason why there are none.
-/

namespace Mintage

/-- Why a file could not be read. -/
inductive File.Error where
  | missing
  /-- The bytes are not UTF-8, where a text is asked for. -/
  | notText
  | other (reason : String)
deriving DecidableEq

/-- The wording of an error. -/
def File.Error.message : File.Error → String
  | .missing => "No such file or directory (os error 2)"
  | .notText => "stream did not contain valid UTF-8"
  | .other reason => reason

/-- The result of reading a file. -/
abbrev File := Except File.Error Bytes

/-- The content as text. -/
def File.text (file : File) : Except File.Error String := do
  match Utf8.decode (← file) with
  | .ok s => return s
  | .error _ => throw .notText

end Mintage
