import BlockMail.Text.CodeRanges
import BlockMail.Text.Pieces

/-! # Maps of code points

A map from code points to lists of code points.  Large maps are written as text,
as entries with spaces between them, all numbers in hexadecimal:

- `132>69,6A` maps one code point;
- `41-5A>61` maps a range to the numbers that follow `61`, in their order;
- `100/12E>101` maps every other code point of a range to the numbers that follow
  `101`, likewise every other;
- `300=314>E6` maps a whole range to one number.
-/

namespace BlockMail.Text

/-- How a range is mapped. -/
inductive MapPattern where
  /-- Every code point to the same list. -/
  | constant
  /-- Each to the number that stands as far behind the first. -/
  | shifted
  /-- Every other one, likewise. -/
  | alternating
  deriving DecidableEq, Repr, Inhabited

/-- A range of code points and what they are mapped to. -/
structure MapEntry where
  first : Nat
  last : Nat
  pattern : MapPattern
  image : List Nat
  deriving DecidableEq, Repr, Inhabited

namespace MapEntry

/-- What an entry maps a code point to, if it is in its range. -/
def get? (e : MapEntry) (n : Nat) : Option (List Nat) :=
  if e.first ≤ n ∧ n ≤ e.last then
    match e.pattern with
    | .constant => some e.image
    | .shifted => some (e.image.map (· + (n - e.first)))
    | .alternating =>
      if (n - e.first) % 2 = 0 then some (e.image.map (· + (n - e.first))) else none
  else none

/-- The number that hexadecimal digits denote. -/
def hexNumber (cs : List Char) : Nat :=
  cs.foldl (fun n c => n * 16 + (hexDigit? c).getD 0) 0

/-- Reads an entry. -/
def ofChars (cs : List Char) : MapEntry :=
  let isDigit (c : Char) := (hexDigit? c).isSome
  let (range, image) := cs.span (· != '>')
  let (first, rest) := range.span isDigit
  let image := (piecesAt (· == ',') (image.drop 1)).map hexNumber
  match rest with
  | sign :: last =>
    let pattern := if sign = '-' then .shifted else if sign = '/' then .alternating else .constant
    ⟨hexNumber first, hexNumber last, pattern, image⟩
  | [] => ⟨hexNumber first, hexNumber first, .constant, image⟩

end MapEntry

/-- Entries with distinct ranges. -/
structure CodeMap where
  entries : Array MapEntry

namespace CodeMap

/-- The map that the lines of a table describe. -/
def ofLines (lines : List String) : CodeMap :=
  ⟨(lines.flatMap fun l => (piecesAt (· == ' ') l.toList).map MapEntry.ofChars).toArray⟩

/-- What a code point is mapped to. -/
def get? (m : CodeMap) (n : Nat) : Option (List Nat) :=
  m.entries.findSome? (·.get? n)

end CodeMap

example : (MapEntry.ofChars "41-5A>61".toList).get? 0x43 = some [0x63] := by cbv

example : (MapEntry.ofChars "100/12E>101".toList).get? 0x103 = none := by cbv

end BlockMail.Text
