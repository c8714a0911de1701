import BlockMail.Text.CodeRanges
import BlockMail.Text.Pieces

/-! # Internet addresses in text

Which texts are addresses of version 4 (four numbers with points between them) or
of version 6 (eight groups of hexadecimal digits with colons between them).

In version 6 two colons on end may stand, once, for one group of zeros or more,
and the last two groups may be written as an address of version 4.
-/

namespace BlockMail.Net

open Text (hexDigit? piecesAt)

/-- A decimal number below 256 without a zero in front. -/
def isOctet (cs : List Char) : Bool :=
  cs.all Char.isDigit && 1 ≤ cs.length && cs.length ≤ 3
    && (cs.length == 1 || cs.head? != some '0')
    && cs.foldl (fun n c => n * 10 + (c.toNat - '0'.toNat)) 0 < 256

/-- An address of version 4. -/
def isIpv4 (cs : List Char) : Bool :=
  let octets := piecesAt (· == '.') cs
  octets.length == 4 && octets.all isOctet

/-- One to four hexadecimal digits. -/
def isGroup (cs : List Char) : Bool :=
  cs.all (fun c => (hexDigit? c).isSome) && 1 ≤ cs.length && cs.length ≤ 4

/-- How many groups the pieces between colons stand for. -/
def groups? : List (List Char) → Option Nat
  | [] => some 0
  | [piece] => if isGroup piece then some 1 else if isIpv4 piece then some 2 else none
  | piece :: rest => if isGroup piece then (groups? rest).map (· + 1) else none

/-- The text before the first two colons on end and the text after them. -/
def splitGap? : List Char → Option (List Char × List Char)
  | ':' :: ':' :: cs => some ([], cs)
  | c :: cs => (splitGap? cs).map fun (before, after) => (c :: before, after)
  | [] => none

/-- The pieces between colons; none in the empty text. -/
def colonPieces (cs : List Char) : List (List Char) :=
  if cs = [] then [] else piecesAt (· == ':') cs

/-- An address of version 6. -/
def isIpv6 (cs : List Char) : Bool :=
  match splitGap? cs with
  | none => groups? (colonPieces cs) == some 8
  | some (before, after) =>
    (colonPieces before).all isGroup
      && match groups? (colonPieces after) with
        | some n => (colonPieces before).length + n ≤ 7
        | none => false

example : isIpv4 "127.0.0.1".toList ∧ ¬isIpv4 "127.0.00.1".toList ∧ ¬isIpv4 "1.2.3".toList := by
  decide

example : isIpv6 "::".toList ∧ isIpv6 "1:2:3:4:5:6:1.2.3.4".toList ∧ ¬isIpv6 ":1::".toList := by
  decide

end BlockMail.Net
