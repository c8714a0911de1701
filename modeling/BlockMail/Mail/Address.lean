import BlockMail.DomainName.Ascii
import BlockMail.Net.IpAddress
import BlockMail.Text.Blank

/-! # Addresses of recipients

Which texts are accepted as the address of a recipient.  An address is cut at its
last `@`: in front stands the user, behind it the domain.  A domain is a name, or
the number of a host in brackets.
-/

namespace BlockMail.Address

open Text (hexDigit? piecesAt)

/-- An ASCII letter or digit. -/
def isAlnum (c : Char) : Bool := c.isAlpha || c.isDigit

/-- The characters of a user. -/
def isUserChar (c : Char) : Bool :=
  isAlnum c || ".!#$%&'*+/=?^_`\x7b|\x7d~-".toList.contains c

/-- A part of the name of a domain. -/
def isLabel (cs : List Char) : Bool :=
  1 ≤ cs.length && cs.length ≤ 63 && cs.all (fun c => isAlnum c || c == '-')
    && cs.head? != some '-' && cs.getLast? != some '-'

/-- The name of a domain: labels with points between them. -/
def isDomainName (cs : List Char) : Bool :=
  (piecesAt (· == '.') cs).all isLabel

/-- The characters in the number of a host. -/
def isHostNumberChar (c : Char) : Bool :=
  (hexDigit? c).isSome || c == ':' || c == '.'

/-- The text ends in the number of a host in brackets. -/
def endsInHostNumber (cs : List Char) : Bool :=
  match cs.reverse with
  | ']' :: rest =>
    let number := (rest.takeWhile isHostNumberChar).reverse
    (rest.dropWhile isHostNumberChar).head? == some '['
      && (Net.isIpv4 number || Net.isIpv6 number)
  | _ => false

/-- A domain that is written in ASCII. -/
def isAsciiDomain (cs : List Char) : Bool :=
  isDomainName cs || endsInHostNumber cs

/-- The user and the domain of an address. -/
def split? (cs : List Char) : Option (List Char × List Char) :=
  match cs.reverse.dropWhile (· != '@') with
  | '@' :: user => some (user.reverse, (cs.reverse.takeWhile (· != '@')).reverse)
  | _ => none

/-- A user of at most 64 characters. -/
def isUser (cs : List Char) : Bool :=
  1 ≤ cs.length && cs.length ≤ 64 && cs.all isUserChar

/-- A domain of at most 255 characters: it is written in ASCII, or has a form in
    ASCII. -/
def isDomain (cs : List Char) : Bool :=
  cs.length ≤ 255 && (isAsciiDomain cs || (DomainName.toAscii? cs).any isAsciiDomain)

/-- Whether a text is accepted as an address. -/
def isValid (address : String) : Bool :=
  match split? address.toList with
  | some (user, domain) => isUser user && isDomain domain
  | none => false

end BlockMail.Address
