/-! # Sets of code points

A set of code points as a list of ranges.  Large tables are written as text,
`"27 2E 3A-5A"`, in hexadecimal: a lone number is a range of one.
-/

namespace BlockMail.Text

/-- The value of a hexadecimal digit, in either case. -/
def hexDigit? (c : Char) : Option Nat :=
  if '0' ≤ c ∧ c ≤ '9' then some (c.toNat - '0'.toNat)
  else if 'a' ≤ c ∧ c ≤ 'f' then some (c.toNat - 'a'.toNat + 10)
  else if 'A' ≤ c ∧ c ≤ 'F' then some (c.toNat - 'A'.toNat + 10)
  else none

/-- Ranges of code points, both ends included. -/
structure CodeRanges where
  ranges : Array (Nat × Nat)

namespace CodeRanges

/-- Reads the ranges off their text, a digit at a time: `first?` is the start of
    a range whose end is being read, `n?` the number read so far. -/
def readRanges (first? n? : Option Nat) : List Char → List (Nat × Nat)
  | [] => (n?.map fun n => (first?.getD n, n)).toList
  | c :: cs =>
    match hexDigit? c with
    | some d => readRanges first? (some (n?.getD 0 * 16 + d)) cs
    | none =>
      -- a sign ends the first number of a range, anything else ends the range
      if c = '-' then readRanges n? none cs
      else (n?.map fun n => (first?.getD n, n)).toList ++ readRanges none none cs

/-- The set that the lines of a table describe. -/
def ofLines (lines : List String) : CodeRanges :=
  ⟨(lines.flatMap fun l => readRanges none none l.toList).toArray⟩

/-- Whether a code point is in one of the ranges. -/
def contains (t : CodeRanges) (n : Nat) : Bool :=
  t.ranges.any fun r => r.1 ≤ n && n ≤ r.2

end CodeRanges

example : (CodeRanges.readRanges none none "27 3A-5F".toList) = [(0x27, 0x27), (0x3A, 0x5F)] := by
  cbv

end BlockMail.Text
