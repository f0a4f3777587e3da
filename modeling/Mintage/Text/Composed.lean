import Mintage.Text.CombiningClass
import Mintage.Text.Decomposition

/-!
# Composed text

The same text can be spelled in several ways: a letter with an accent is one character or two, and
marks on a letter may come in any order if they do not touch. `Composed.ofChars` gives the spelling
with the fewest characters: every character is decomposed as far as possible, marks are put into
the order of their classes, and each is joined to the letter in front of it if that gives a
character.
-/

namespace Mintage.Composed

/-! ## Korean syllables -/

/-- The first syllable; the others follow in the order of their letters. -/
def firstSyllable : Nat := 0xac00

/-- The first letters in front of, within and, but for one, behind a syllable. -/
def firstLead : Nat := 0x1100

@[inherit_doc firstLead] def firstVowel : Nat := 0x1161

@[inherit_doc firstLead] def firstTail : Nat := 0x11a7

/-- How many letters there are of each kind; no letter counts as one of those behind a syllable. -/
def leads : Nat := 19

@[inherit_doc leads] def vowels : Nat := 21

@[inherit_doc leads] def tails : Nat := 28

/-- The letters of a syllable. -/
def lettersOfSyllable? (c : Char) : Option (List Char) :=
  let n := c.toNat - firstSyllable
  if firstSyllable ≤ c.toNat ∧ n < leads * vowels * tails then
    let lead := Char.ofNat (firstLead + n / (vowels * tails))
    let vowel := Char.ofNat (firstVowel + n / tails % vowels)
    some <|
      if n % tails = 0 then [lead, vowel] else [lead, vowel, Char.ofNat (firstTail + n % tails)]
  else none

/-- The syllable that a letter makes with what is in front of it. -/
def syllable? (a b : Char) : Option Char :=
  let lead := a.toNat - firstLead
  let vowel := b.toNat - firstVowel
  let n := a.toNat - firstSyllable
  let tail := b.toNat - firstTail
  if firstLead ≤ a.toNat ∧ lead < leads ∧ firstVowel ≤ b.toNat ∧ vowel < vowels then
    some (Char.ofNat (firstSyllable + (lead * vowels + vowel) * tails))
  else if firstSyllable ≤ a.toNat ∧ n < leads * vowels * tails ∧ n % tails = 0 ∧
      firstTail < b.toNat ∧ tail < tails then
    some (Char.ofNat (a.toNat + tail))
  else none

/-! ## Decomposing -/

/-- Decomposes a character; each round decomposes what the one before it gave. -/
def decompose : (rounds : Nat) → Char → List Char
  | 0, c => [c]
  | rounds + 1, c =>
    match decompositions.get? c with
    | some cs => cs.flatMap (decompose rounds)
    | none => (lettersOfSyllable? c).getD [c]

/-- How many rounds decompose every character. -/
def decompositionRounds : Nat := 4

/-- Puts a mark in front of marks of a higher class. -/
def insertMark (c : Char) : List Char → List Char
  | [] => [c]
  | d :: ds =>
    if combiningClass d = 0 ∨ combiningClass c ≤ combiningClass d then c :: d :: ds
    else d :: insertMark c ds

/-- Sorts the marks behind each letter by their classes; those of one class keep their order. -/
def orderMarks (cs : List Char) : List Char :=
  cs.foldr (fun c ds => if combiningClass c = 0 then c :: ds else insertMark c ds) []

/-! ## Composing -/

/-- The pairs of characters that are the same as a single one, with that one. -/
def pairs : List (Char × Char × Char) :=
  decompositions.rows.toList.filterMap fun row =>
    match row.value with
    | [a, b] =>
      let c := Char.ofNat row.low
      if CharSet.uncomposed.contains c then none else some (a, b, c)
    | _ => none

/-- The character that is the same as two. -/
def compose? (a b : Char) : Option Char :=
  (syllable? a b).or ((pairs.find? fun (x, y, _) => x = a && y = b).map (·.2.2))

/-- Joins characters to the letter `base`, which the marks `kept` follow, the last one in front. A
mark of the same class, or another letter, hides the base from what is behind it. -/
def composeFrom (base : Char) (kept : List Char) : List Char → List Char
  | [] => base :: kept.reverse
  | c :: cs =>
    let isHidden := kept.head?.any fun k => combiningClass c ≤ combiningClass k
    match if isHidden then none else compose? base c with
    | some joined => composeFrom joined kept cs
    | none =>
      if combiningClass c = 0 then base :: kept.reverse ++ composeFrom c [] cs
      else composeFrom base (c :: kept) cs

/-- Joins the characters of a text; marks that no letter is in front of stay as they are. -/
def compose : List Char → List Char
  | [] => []
  | c :: cs => if combiningClass c = 0 then composeFrom c [] cs else c :: compose cs

/-- The composed spelling of a text. -/
def ofChars (cs : List Char) : List Char :=
  compose (orderMarks (cs.flatMap (decompose decompositionRounds)))

end Mintage.Composed
