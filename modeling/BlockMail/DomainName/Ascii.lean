import BlockMail.DomainName.Direction
import BlockMail.DomainName.Joining
import BlockMail.DomainName.Mapping
import BlockMail.DomainName.Punycode
import BlockMail.Text.Pieces

/-! # Domain names in ASCII

A domain name in any script has a form in ASCII, by which it is looked up.  The
name is mapped and cut into labels; a label that is not in ASCII is written with
the mark `xn--` in front.  A label that has the mark already is read, and has to be
what the mapping would have made of it.
-/

namespace BlockMail.DomainName

/-- The mark of a label that stands for other characters. -/
def mark : List Nat := "xn--".toList.map Char.toNat

def isAscii (ns : List Nat) : Bool := ns.all (· < 128)

/-- A label: its characters, and how it is written in ASCII. -/
structure Label where
  shown : List Nat
  written : List Char

/-- Whether the characters of a label may stand together. -/
def fits (shown : List Nat) : Bool :=
  !(shown.head?.any marks.contains) && isMapped shown && joinersFit shown

/-- The label that stands between two points of a mapped name. -/
def Label.of? (ns : List Nat) : Option Label :=
  if mark.isPrefixOf ns then do
    let written := ns.map Char.ofNat
    -- a label that is written in code must stand for something that needs the code
    let shown ← if isAscii ns then Punycode.decode? (written.drop mark.length) else none
    if !isAscii shown && fits shown then some ⟨shown, written⟩ else none
  else if fits ns then
    some ⟨ns, if isAscii ns then ns.map Char.ofNat else "xn--".toList ++ Punycode.encode ns⟩
  else none

/-- The form of a domain name in ASCII, if it has one. -/
def toAscii? (name : List Char) : Option (List Char) := do
  let ns ← mapped? (name.map Char.toNat)
  let labels ← (Text.piecesAt (· == '.'.toNat) ns).mapM Label.of?
  if directionsFit (labels.map (·.shown)) then
    some (['.'].intercalate (labels.map (·.written)))
  else none

end BlockMail.DomainName
