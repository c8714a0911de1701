import BlockMail.Text.CodeRanges

/-! # Percent encoding

Bytes that cannot stand in a part of a web address are written as `%` and two
hexadecimal digits.

- `Percent.encode` writes the characters of a class so, byte by byte;
- `Percent.bytes` are the bytes that a text stands for.  A `%` without two digits
  behind it stands for itself.
-/

namespace BlockMail.Http.Percent

open Text (hexDigit?)

/-- A hexadecimal digit, in capitals. -/
def hexCapital (n : Nat) : Char :=
  if n < 10 then Char.ofNat ('0'.toNat + n) else Char.ofNat ('A'.toNat + (n - 10))

/-- A character as the percent-encoded bytes of its UTF-8 form. -/
def encoded (c : Char) : List Char :=
  (String.singleton c).toUTF8.toList.flatMap fun b =>
    ['%', hexCapital (b.toNat / 16), hexCapital (b.toNat % 16)]

/-- Encodes the characters of a class. -/
def encode (isEncoded : Char → Bool) (cs : List Char) : String :=
  String.ofList (cs.flatMap fun c => if isEncoded c then encoded c else [c])

/-- The byte that two hexadecimal digits stand for. -/
def byte? (high low : Char) : Option UInt8 := do
  return (16 * (← hexDigit? high) + (← hexDigit? low)).toUInt8

/-- The bytes that a text stands for. -/
def bytes : List Char → List UInt8
  | [] => []
  | '%' :: high :: low :: rest =>
    match byte? high low with
    | some b => b :: bytes rest
    | none => 0x25 :: bytes (high :: low :: rest)
  | c :: cs => (String.singleton c).toUTF8.toList ++ bytes cs

/-- The text that a percent-encoded text stands for, unless its bytes are no
    text. -/
def decode? (cs : List Char) : Option String :=
  String.fromUTF8? ⟨(bytes cs).toArray⟩

example : decode? "%41%3a%zz%4".toList = some "A:%zz%4" := by cbv

end BlockMail.Http.Percent
