/-! # JSON values

A value as a program sees it once a text has been read in full.  Numbers are
told apart only as far as a reader of this library can tell them apart: whole
numbers of 64 bits, signed or unsigned, and everything else.

Members of an object are a list.  Reading leaves them in ascending order of
their names with no name twice; printing keeps whatever order they have.
-/

namespace BlockMail.Json

/-- A number within the range of the reader. -/
inductive Number where
  /-- Written without a point or an exponent, and between `-2^63` and `2^64 - 1`. -/
  | integer (n : Int)
  /-- Any other number: `significand * 10 ^ exponent`, negated or not. -/
  | decimal (negative : Bool) (significand : Nat) (exponent : Int)
  deriving DecidableEq, Repr, Inhabited

/-- A JSON value. -/
inductive Value where
  | null
  | bool (b : Bool)
  | number (n : Number)
  | string (s : String)
  | array (items : List Value)
  | object (members : List (String × Value))
  deriving Inhabited

namespace Value

def integer (n : Int) : Value := .number (.integer n)

/-- A text, or `null` where there is none. -/
def ofText? (s : Option String) : Value :=
  match s with
  | some s => .string s
  | none => .null

/-- A whole number, or `null` where there is none. -/
def ofInt64? (n : Option Int64) : Value :=
  match n with
  | some n => .integer n.toInt
  | none => .null

end Value

end BlockMail.Json
