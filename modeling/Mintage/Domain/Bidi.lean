import Mintage.Text.Direction

/-!
# Names written in both directions

If any letter of a name is written from right to left, no label may look as if its characters were
in another order than they are. So each label begins with a letter, whose direction is that of the
whole label, and ends with a letter or number.
-/

namespace Mintage.Domain

/-- Whether a character makes its name one that is written from right to left. -/
def isRightToLeft (c : Char) : Bool :=
  direction c = .rightToLeft || direction c = .arabicLetter || direction c = .arabicNumber

/-- The last direction of a label, marks apart. -/
def lastDirection? (ds : List Direction) : Option Direction := ds.reverse.find? (· ≠ .mark)

/-- Whether the directions of a label can be told from its first one. -/
def isLegible (ds : List Direction) : Bool :=
  let within (allowed : List Direction) : Bool :=
    ds.all fun d => allowed.contains d ||
      [.europeanNumber, .separator, .terminator, .neutral, .control, .mark].contains d
  let endsIn (allowed : List Direction) : Bool := (lastDirection? ds).any allowed.contains
  match ds.head? with
  | none => true
  | some .leftToRight => within [.leftToRight] && endsIn [.leftToRight, .europeanNumber]
  | some .rightToLeft | some .arabicLetter =>
    within [.rightToLeft, .arabicLetter, .arabicNumber] &&
      endsIn [.rightToLeft, .arabicLetter, .europeanNumber, .arabicNumber] &&
      ¬ (ds.contains .europeanNumber && ds.contains .arabicNumber)
  | some _ => false

/-- Whether the labels of a name can be read. -/
def areLegible (labels : List (List Char)) : Bool :=
  ¬ labels.any (·.any isRightToLeft) || labels.all fun label => isLegible (label.map direction)

end Mintage.Domain
