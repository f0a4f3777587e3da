import Mintage.Text.CombiningClass
import Mintage.Text.Joining

/-!
# Joiners in labels

Two characters that do not show themselves join letters or keep them apart. They may only stand
where that makes a difference: behind the sign that takes the vowel from a letter, and the one that
keeps letters apart also between letters that would be joined otherwise.
-/

namespace Mintage.Domain

/-- The character that joins letters. -/
def joiner : Char := '\u200d'

/-- The character that keeps letters apart. -/
def nonJoiner : Char := '\u200c'

/-- The class of the signs that take the vowel from a letter. -/
def vowelKiller : Nat := 9

/-- Whether the first of the characters that is not transparent is joined in one of some ways. -/
def meets (ways : List Joining) (cs : List Char) : Bool :=
  match cs.find? (joinings.get? · ≠ some .transparent) with
  | some c => (joinings.get? c).any ways.contains
  | none => false

/-- Whether the joiners among the characters are in their places; `before` is in front of them, the
last character first. -/
def joinersFit (before : List Char) : List Char → Bool
  | [] => true
  | c :: cs =>
    let isKilled := before.head?.any (combiningClass · = vowelKiller)
    let fits :=
      if c = joiner then isKilled
      else if c = nonJoiner then
        isKilled || (meets [.after, .both] before && meets [.before, .both] cs)
      else true
    fits && joinersFit (c :: before) cs

end Mintage.Domain
