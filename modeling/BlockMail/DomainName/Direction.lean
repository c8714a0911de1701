import BlockMail.DomainName.DirectionTable
import BlockMail.Text.CodeRanges

/-! # Direction of labels

A domain name with characters that run from right to left would be shown in a
confusing order if its labels mixed directions freely.  So each of its labels has
one direction, shown by its first character, and holds nothing but what keeps its
place in that direction.
-/

namespace BlockMail.DomainName

open Text (CodeRanges)

/-- The classes of characters that matter for the direction of a label. -/
inductive Direction where
  | leftToRight
  | rightToLeft
  | arabicLetter
  | arabicNumber
  | europeanNumber
  /-- Separators, terminators and other characters that follow their neighbours. -/
  | neutral
  | nonspacingMark
  /-- Nothing that a label with a direction can hold. -/
  | other
  deriving DecidableEq, Repr, Inhabited

namespace Direction

/-- The code points of the classes. -/
def classes : List (CodeRanges × Direction) :=
  [ (.ofLines DirectionTable.rightToLeft, .rightToLeft),
    (.ofLines DirectionTable.arabicLetter, .arabicLetter),
    (.ofLines DirectionTable.arabicNumber, .arabicNumber),
    (.ofLines DirectionTable.europeanNumber, .europeanNumber),
    (.ofLines DirectionTable.europeanSeparator, .neutral),
    (.ofLines DirectionTable.commonSeparator, .neutral),
    (.ofLines DirectionTable.europeanTerminator, .neutral),
    (.ofLines DirectionTable.boundaryNeutral, .neutral),
    (.ofLines DirectionTable.otherNeutral, .neutral),
    (.ofLines DirectionTable.nonspacingMark, .nonspacingMark),
    (.ofLines DirectionTable.blank, .other) ]

/-- The class of a code point. -/
def of (n : Nat) : Direction :=
  ((classes.find? (·.1.contains n)).map (·.2)).getD .leftToRight

/-- A character that makes a whole name subject to the rules. -/
def runsLeft (d : Direction) : Bool :=
  d == .rightToLeft || d == .arabicLetter || d == .arabicNumber

/-- The last class that is not that of a mark. -/
def final? (ds : List Direction) : Option Direction :=
  ds.reverse.find? (· != .nonspacingMark)

/-- A label that runs from right to left. -/
def isLeftwards (ds : List Direction) : Bool :=
  ds.all (fun d => d != .leftToRight && d != .other)
    && (final? ds).any (fun d => d != .neutral)
    && !(ds.contains .europeanNumber && ds.contains .arabicNumber)

/-- A label that runs from left to right. -/
def isRightwards (ds : List Direction) : Bool :=
  ds.all (fun d => !d.runsLeft && d != .other)
    && (final? ds).any (fun d => d != .neutral)

/-- A label with one direction.  The empty label has none, and needs none. -/
def isUniform (ds : List Direction) : Bool :=
  match ds.head? with
  | none => true
  | some .leftToRight => isRightwards ds
  | some .rightToLeft => isLeftwards ds
  | some .arabicLetter => isLeftwards ds
  | some _ => false

end Direction

/-- Whether the labels of a name can be shown together. -/
def directionsFit (labels : List (List Nat)) : Bool :=
  let classes := labels.map (·.map Direction.of)
  !(classes.any (·.any Direction.runsLeft)) || classes.all Direction.isUniform

end BlockMail.DomainName
