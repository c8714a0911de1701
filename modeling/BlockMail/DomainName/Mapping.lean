import BlockMail.DomainName.MappingTable
import BlockMail.Text.Normal

/-! # Mapping of domain names

The names of domains are compared after a mapping: capitals become small letters,
variants of characters their plain forms, and characters that do not show are left
out.  Some characters can stand in no name.
-/

namespace BlockMail.DomainName

open Text (CodeMap CodeRanges)

/-- Characters that are replaced. -/
def replacements : CodeMap := .ofLines MappingTable.replacements

/-- Characters that are left out. -/
def ignored : CodeRanges := .ofLines MappingTable.ignored

/-- Characters that no name can hold. -/
def disallowed : CodeRanges := .ofLines MappingTable.disallowed

def marks : CodeRanges := .ofLines MappingTable.marks

/-- What a code point is replaced by; nothing if no name can hold it. -/
def replacement? (n : Nat) : Option (List Nat) :=
  match replacements.get? n with
  | some image => some image
  | none =>
    if ignored.contains n then some []
    else if disallowed.contains n then none
    else some [n]

/-- A code point that stands for itself. -/
def isPlain (n : Nat) : Bool := replacement? n == some [n]

/-- The mapped form of a text. -/
def mapped? (ns : List Nat) : Option (List Nat) :=
  (ns.mapM replacement?).map fun images => Text.Normal.canonical images.flatten

/-- Whether a text is its own mapped form. -/
def isMapped (ns : List Nat) : Bool :=
  ns.all isPlain && Text.Normal.canonical ns == ns

end BlockMail.DomainName
