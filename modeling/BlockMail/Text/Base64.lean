/-! # Base 64

Bytes written with letters, digits and two more characters, six bits each.  Three
bytes make four characters; equals signs fill up the last four.
-/

namespace BlockMail.Text.Base64

/-- The character for six bits. -/
def digit (n : Nat) : Char :=
  if n < 26 then Char.ofNat ('A'.toNat + n)
  else if n < 52 then Char.ofNat ('a'.toNat + (n - 26))
  else if n < 62 then Char.ofNat ('0'.toNat + (n - 52))
  else if n = 62 then '+'
  else '/'

/-- The first characters, as many as are asked for, of the four that stand for
    24 bits. -/
def digits (count n : Nat) : List Char :=
  [digit (n / 262144), digit (n / 4096 % 64), digit (n / 64 % 64), digit (n % 64)].take count

/-- Writes bytes. -/
def encode : List UInt8 → List Char
  | a :: b :: c :: rest =>
    digits 4 (a.toNat * 65536 + b.toNat * 256 + c.toNat) ++ encode rest
  | [a, b] => digits 3 (a.toNat * 65536 + b.toNat * 256) ++ ['=']
  | [a] => digits 2 (a.toNat * 65536) ++ ['=', '=']
  | [] => []

example : encode "any carnal pleas".toUTF8.toList = "YW55IGNhcm5hbCBwbGVhcw==".toList := by
  cbv

end BlockMail.Text.Base64
