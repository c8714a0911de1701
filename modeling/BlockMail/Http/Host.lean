import BlockMail.DomainName.Ascii
import BlockMail.Http.Percent
import BlockMail.Net.IpAddress

/-! # Hosts of web addresses

The host of a web address is a number of version 6 in brackets, a number of
version 4, or a name.

A name is percent-decoded and brought into its form in ASCII.  If its last part is
a number then it has to be a number of version 4: up to four parts with points
between them, in decimal, octal or hexadecimal, the last of which makes up for
those that are missing.
-/

namespace BlockMail.Http

open Text (hexDigit? piecesAt)

/-- What an address says about where to go. -/
inductive Host where
  | name (ascii : String)
  | version4 (number : Nat)
  | version6 (text : String)
  deriving DecidableEq, Repr, Inhabited

namespace Host

/-! ## Numbers of version 4 -/

/-- The number that digits to a base denote; zero if there are none. -/
def digits? (base : Nat) (cs : List Char) : Option Nat :=
  cs.foldlM (fun n c => do
    let d ← hexDigit? c
    if d < base then some (n * base + d) else none) 0

/-- A part of a number: hexadecimal behind `0x`, octal behind another zero, and
    otherwise decimal. -/
def part? : List Char → Option Nat
  | [] => none
  | '0' :: c :: cs => if c = 'x' ∨ c = 'X' then digits? 16 cs else digits? 8 (c :: cs)
  | cs => digits? 10 cs

/-- The parts between points.  A point at the end does not count. -/
def parts (cs : List Char) : List (List Char) :=
  let pieces := piecesAt (· == '.') cs
  if 1 < pieces.length ∧ pieces.getLast? = some [] then pieces.dropLast else pieces

/-- Whether the last part is a number, or looks like one. -/
def endsInNumber (cs : List Char) : Bool :=
  (parts cs).getLast?.any fun part =>
    (part != [] && part.all Char.isDigit) || (part? part).isSome

/-- The number that is made of parts.  All but the last are bytes. -/
def join? (before : Nat) : List Nat → Option Nat
  | [] => none
  | [n] => if n < Nat.pow 256 (4 - before) then some n else none
  | n :: rest =>
    if n < 256 then (join? (before + 1) rest).map (n * Nat.pow 256 (3 - before) + ·) else none

/-- A number of version 4. -/
def version4? (cs : List Char) : Option Nat := do
  if 4 < (parts cs).length then none
  else join? 0 (← (parts cs).mapM part?)

/-! ## Names -/

/-- Characters that cannot stand in a name. -/
def isForbidden (c : Char) : Bool :=
  c.toNat ≤ 0x20 || 0x7F ≤ c.toNat
    || "\"#%/:<>?@[\\]^`\x7b|\x7d".toList.contains c

/-- A name, or a number of version 4. -/
def ofName? (cs : List Char) : Option Host := do
  let ascii ← DomainName.toAscii? (← Percent.decode? cs).toList
  if ascii = [] ∨ ascii.any isForbidden then none
  else if endsInNumber ascii then (version4? ascii).map .version4
  else some (.name (String.ofList ascii))

/-- Reads a host. -/
def parse? (cs : List Char) : Option Host :=
  match cs with
  | [] => none
  | '[' :: inner =>
    -- brackets hold an address of version 6
    if inner.getLast? = some ']' ∧ Net.isIpv6 inner.dropLast then
      some (.version6 (String.ofList inner.dropLast))
    else none
  | _ => ofName? cs

example : version4? "127.1".toList = some 0x7F000001 := by decide +kernel

example : version4? "1.2.3.0x100".toList = none := by decide +kernel

end Host

end BlockMail.Http
