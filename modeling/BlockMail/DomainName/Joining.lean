import BlockMail.DomainName.JoiningTable
import BlockMail.Text.Normal

/-! # Joiners

Two characters that do not show themselves say whether their neighbours are
joined.  They may stand in a label where they make a difference: behind the sign
that suppresses a vowel, and the non-joiner also between letters that would be
joined.
-/

namespace BlockMail.DomainName

open Text (CodeRanges)

/-- Letters that join on both sides. -/
def joinsBoth : CodeRanges := .ofLines JoiningTable.dual

/-- Letters that join what follows. -/
def joinsNext : CodeRanges := .ofLines JoiningTable.left

/-- Letters that join what is before. -/
def joinsPrevious : CodeRanges := .ofLines JoiningTable.right

/-- Characters that joins pass through. -/
def passesJoins : CodeRanges := .ofLines JoiningTable.transparent

/-- Keeps its neighbours from being joined. -/
def nonJoiner : Nat := 0x200C

/-- Lets its neighbours be joined. -/
def joiner : Nat := 0x200D

/-- The class of the signs that suppress a vowel. -/
def viramaClass : Nat := 9

/-- The first code point that joins do not pass through is in one of two sets. -/
def meets (s t : CodeRanges) (ns : List Nat) : Bool :=
  match ns.find? fun n => s.contains n || t.contains n || !passesJoins.contains n with
  | some n => s.contains n || t.contains n
  | none => false

/-- Whether a joiner may stand behind `before`, whose last code point comes first,
    and in front of `after`. -/
def joinerFits (n : Nat) (before after : List Nat) : Bool :=
  before.head?.any (fun b => Text.Normal.combiningClass b == viramaClass)
    || n == nonJoiner && meets joinsNext joinsBoth before && meets joinsPrevious joinsBoth after

/-- Whether all joiners of the rest of a label may stand where they do. -/
def joinersFitFrom (before : List Nat) : List Nat → Bool
  | [] => true
  | n :: after =>
    (!(n == nonJoiner || n == joiner) || joinerFits n before after)
      && joinersFitFrom (n :: before) after

/-- Whether all joiners of a label may stand where they do. -/
def joinersFit (label : List Nat) : Bool := joinersFitFrom [] label

end BlockMail.DomainName
