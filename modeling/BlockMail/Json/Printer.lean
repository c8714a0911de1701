import BlockMail.Json.Value

/-! # Printing JSON

The compact form: no white space, members in the order of their list, and only
those characters escaped that must be.
-/

namespace BlockMail.Json

/-- The hexadecimal digit for a number below sixteen, in small letters. -/
def hexChar (n : Nat) : Char :=
  if n < 10 then Char.ofNat ('0'.toNat + n) else Char.ofNat ('a'.toNat + (n - 10))

/-- How a character is written inside a string. -/
def escapeChar (c : Char) : List Char :=
  if c = '"' then ['\\', '"']
  else if c = '\\' then ['\\', '\\']
  else if c = '\x08' then ['\\', 'b']
  else if c = '\x0c' then ['\\', 'f']
  else if c = '\n' then ['\\', 'n']
  else if c = '\r' then ['\\', 'r']
  else if c = '\t' then ['\\', 't']
  else if c.toNat < 0x20 then
    ['\\', 'u', '0', '0', hexChar (c.toNat / 16), hexChar (c.toNat % 16)]
  else [c]

/-- A string in its quotes. -/
def printString (s : String) : List Char :=
  '"' :: s.toList.flatMap escapeChar ++ ['"']

/-- A number. -/
def printNumber : Number → List Char
  | .integer n => (toString n).toList
  | .decimal negative significand exponent =>
    (if negative then ['-'] else []) ++ (toString significand).toList ++ 'e' ::
      (toString exponent).toList

mutual

/-- A value in compact form. -/
def Value.print : Value → List Char
  | .null => "null".toList
  | .bool true => "true".toList
  | .bool false => "false".toList
  | .number n => printNumber n
  | .string s => printString s
  | .array items => '[' :: printItems items ++ [']']
  | .object members => '\x7b' :: printMembers members ++ ['\x7d']

/-- Items with commas between them. -/
def printItems : List Value → List Char
  | [] => []
  | [v] => v.print
  | v :: vs => v.print ++ ',' :: printItems vs

/-- Members with commas between them. -/
def printMembers : List (String × Value) → List Char
  | [] => []
  | [(name, v)] => printString name ++ ':' :: v.print
  | (name, v) :: ms => printString name ++ ':' :: v.print ++ ',' :: printMembers ms

end

/-- A value as a text in compact form. -/
def Value.toText (v : Value) : String := String.ofList v.print

end BlockMail.Json
