import Mintage.Digest.Blake2b
import Mintage.Bytes.Hex
import Mintage.Json.Reader

/-!
# Identities

An identity is the hash by which an account or a contract is known. Its text is a prefix that tells
the kind and 64 hexadecimal digits. Contracts are written with one prefix and read with several.
`decode` reads a text of a given kind; `parse` takes the kind from the prefix.
-/

namespace Mintage

namespace Identity

/-- What an identity refers to. -/
inductive Kind where
  /-- The hash of an account's main public key. -/
  | account
  /-- The hash of a stored contract or of a contract package. -/
  | contract
deriving DecidableEq, Repr

/-- The prefix of account hashes. -/
def accountPrefix : String := "account-hash-"

/-- The prefix of contract hashes. -/
def contractPrefix : String := "hash-"

namespace Kind

/-- The prefix with which identities of the kind are written. -/
def writtenPrefix : Kind → String
  | account => accountPrefix
  | contract => contractPrefix

/-- The prefixes with which identities of the kind are read. Where one begins another, the longer
one comes first. -/
def acceptedPrefixes : Kind → List String
  | account => [accountPrefix]
  | contract => ["contract-package-wasm", "contract-package-", "contract-", contractPrefix]

/-- The word for the kind. -/
def text : Kind → String
  | account => "account"
  | contract => "contract"

/-- Accounts come before contracts. -/
def rank : Kind → Nat
  | account => 0
  | contract => 1

end Kind

/-- Why a text is not an identity. -/
inductive Error where
  /-- No prefix of the kind stands in front. -/
  | wrongPrefix (kind : Kind) (input : String)
  | invalidHex (input : String) (fault : Hex.Error)
  /-- The digits stand for another number of bytes. -/
  | wrongLength (input : String) (length : Nat)
deriving DecidableEq

/-- The wording of an error. -/
def Error.message : Error → String
  | .wrongPrefix kind input =>
    "`" ++ input ++ "` does not start with a " ++ kind.text ++ " hash prefix (`" ++
      kind.writtenPrefix ++ "`)."
  | .invalidHex input fault => "Hash `" ++ input ++ "` is not valid hex: " ++ fault.message
  | .wrongLength input length =>
    "Hash `" ++ input ++ s!"` decodes to {length} bytes instead of 32."

end Identity

/-- The hash of an account or of a contract. -/
structure Identity where
  kind : Identity.Kind
  /-- The 32 bytes of the hash. -/
  hash : Digest
deriving DecidableEq

namespace Identity

/-- The text behind a prefix, if it stands in front. -/
def stripPrefix? (start text : List Char) : Option (List Char) :=
  match start, text with
  | [], rest => some rest
  | _ :: _, [] => none
  | a :: as, b :: bs => if a = b then stripPrefix? as bs else none

/-- Reads the hash of a text of the given kind. -/
def decodeHash (text : String) (kind : Kind) : Except Error Digest := do
  let digits ←
    match kind.acceptedPrefixes.findSome? fun p => stripPrefix? p.toList text.toList with
    | some digits => pure digits
    | none => throw (.wrongPrefix kind text)
  let bs ←
    match Hex.decode (String.ofList digits) with
    | .ok bs => pure bs
    | .error fault => throw (.invalidHex text fault)
  match Block.ofBytes? 32 bs with
  | some hash => return hash
  | none => throw (.wrongLength text bs.length)

/-- Reads a text of the given kind. -/
def decode (text : String) (kind : Kind) : Except Error Identity := do
  return ⟨kind, ← decodeHash text kind⟩

/-- Reads a text of either kind: an account if it begins like one, else a contract. -/
def parse (text : String) : Except Error Identity :=
  if (stripPrefix? accountPrefix.toList text.toList).isSome then decode text .account
  else decode text .contract

/-- The text: the prefix of the kind and lowercase digits. -/
def text (i : Identity) : String := i.kind.writtenPrefix ++ Hex.encode i.hash.bytes

instance : ToString Identity := ⟨text⟩

/-- Orders identities by kind, then by hash. -/
def order (a b : Identity) : Ordering :=
  (compare a.kind.rank b.kind.rank).then (compareBytes a.hash.bytes b.hash.bytes)

instance : Ord Identity := ⟨order⟩

/-- Written as text. -/
def toJson (i : Identity) : Json := .str i.text

/-- Written as an array of texts. -/
def listToJson (identities : List Identity) : Json := .arr (identities.map toJson)

/-- Reads a text of either kind. -/
def readJson : Json.Reader Identity := Json.Draft.readParsed parse Error.message

instance : ToJson Identity := ⟨toJson⟩

instance : FromJson Identity := ⟨readJson⟩

end Identity

end Mintage
