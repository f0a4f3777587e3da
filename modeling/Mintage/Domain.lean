import Mintage.Domain.Bidi
import Mintage.Domain.Joiner
import Mintage.Domain.Mapping
import Mintage.Domain.Punycode
import Mintage.Text.Composed
import Mintage.Text.Mark

/-!
# Domain names

A machine has a name of labels between dots, in letters of any script. `Domain.ofText?` gives the
name that a text stands for, unless it is none. Labels may be written in plain letters behind the
sign `xn--`.
-/

namespace Mintage.Domain

/-- Whether a character has a meaning of its own in addresses, so that no name may have it. -/
def isReserved (c : Char) : Bool :=
  c.toNat ≤ 0x20 || c.toNat = 0x7f || "%#/:<>?@[\\]^|".toList.contains c

/-- Whether a character is one of those that all names are made of in the end. -/
def isPlain (c : Char) : Bool := c.toNat < 0x80

/-- The sign in front of a label in plain letters that stands for others. -/
def sign : List Char := "xn--".toList

/-- How long a label may be behind the sign, and how long one may be that has to be written with
it. -/
def longestEncoded : Nat := 2000

@[inherit_doc longestEncoded] def longestDecoded : Nat := 1000

/-- Whether the characters of a label may follow one another. -/
def isLabel (label : List Char) : Bool :=
  ¬ label.head?.any CharSet.marks.contains && joinersFit [] label

/-- Whether a label may be hidden behind the sign: it needs to be, and nothing in it stands for
anything else. -/
def mayBeEncoded (label : List Char) : Bool :=
  label.any (! isPlain ·) && label.all isStable && Composed.ofChars label = label &&
    ¬ sign.isPrefixOf label

/-- The label that is meant by one whose characters have been replaced. -/
def label? (label : List Char) : Option (List Char) := do
  if sign.isPrefixOf label then
    let encoded := label.drop sign.length
    guard (label.all isPlain ∧ encoded.length ≤ longestEncoded)
    let decoded ← Punycode.decode? encoded
    guard (mayBeEncoded decoded ∧ isLabel decoded)
    return decoded
  else
    guard (label.all isPlain ∨ label.length ≤ longestDecoded)
    guard (isLabel label)
    return label

/-- The name that a text stands for, if it is one. -/
def ofText? (text : List Char) : Option (List Char) := do
  let name := Composed.ofChars (← text.mapM mapChar?).flatten
  guard (¬ name.any isReserved)
  let labels ← (name.splitOn '.').mapM label?
  guard (areLegible labels)
  return ['.'].intercalate labels

end Mintage.Domain
