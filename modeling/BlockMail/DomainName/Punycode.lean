/-! # Labels in ASCII

How a label with arbitrary characters is written with the letters, digits and
hyphens of ASCII.  The ASCII characters come first, then a hyphen if there are any.
What follows tells where the others go: they are inserted in ascending order, and
each insertion is a number, the count of places and code points to be passed over
since the last one.  The numbers have 36 digits, and their ends show from digits
below a threshold, which adapts to the size of the numbers before.

`encode` writes a label and `decode?` reads one.
-/

namespace BlockMail.DomainName.Punycode

/-! ## Numbers -/

/-- The digit for a number below 36. -/
def digit (n : Nat) : Char :=
  if n < 26 then Char.ofNat ('a'.toNat + n) else Char.ofNat ('0'.toNat + (n - 26))

/-- The number that a digit stands for. -/
def value? (c : Char) : Option Nat :=
  if 'a' ≤ c ∧ c ≤ 'z' then some (c.toNat - 'a'.toNat)
  else if 'A' ≤ c ∧ c ≤ 'Z' then some (c.toNat - 'A'.toNat)
  else if '0' ≤ c ∧ c ≤ '9' then some (c.toNat - '0'.toNat + 26)
  else none

/-- The threshold of a digit, from the bias and the digit's place in steps of 36. -/
def threshold (bias place : Nat) : Nat :=
  if place ≤ bias then 1 else if bias + 26 ≤ place then 26 else place - bias

theorem threshold_pos (bias place : Nat) : 1 ≤ threshold bias place := by
  unfold threshold
  split
  · omega
  · split <;> omega

/-- Divides by 35 until the number is small, counting in steps of 36. -/
def damp (n steps : Nat) : Nat × Nat :=
  if 455 < n then damp (n / 35) (steps + 36) else (n, steps)
termination_by n
decreasing_by omega

/-- The bias after a number, when so many characters are in place. -/
def adapt (n count : Nat) (first : Bool) : Nat :=
  let n := if first then n / 700 else n / 2
  let (n, steps) := damp (n + n / count) 0
  steps + 36 * n / (n + 38)

/-- The digits of a number. -/
def digits (bias place n : Nat) : List Char :=
  let t := threshold bias place
  if n < t then [digit n]
  else digit (t + (n - t) % (36 - t)) :: digits bias (place + 36) ((n - t) / (36 - t))
termination_by n
decreasing_by
  have := threshold_pos bias place
  exact Nat.lt_of_le_of_lt (Nat.div_le_self _ _) (by omega)

/-! ## Writing -/

/-- Where writing stands. -/
structure Writer where
  output : List Char
  /-- What was passed over since the last insertion. -/
  passed : Nat := 0
  bias : Nat := 72
  /-- How many characters are in place. -/
  count : Nat
  first : Bool := true

/-- Passes one place of the label, which holds `n`, while `m` is inserted. -/
def Writer.pass (w : Writer) (m n : Nat) : Writer :=
  -- smaller characters are in place already and are only counted
  if n < m then { w with passed := w.passed + 1 }
  else if n = m then
    { output := w.output ++ digits w.bias 36 w.passed
      passed := 0
      bias := adapt w.passed (w.count + 1) w.first
      count := w.count + 1
      first := false }
  else w

/-- Inserts the characters of a label in ascending order, from `next` on. -/
def Writer.insertAll (w : Writer) (label : List Nat) (next : Nat) : List Nat → Writer
  | [] => w
  | m :: ms =>
    let w := { w with passed := w.passed + (m - next) * (w.count + 1) }
    let w := label.foldl (fun w n => w.pass m n) w
    { w with passed := w.passed + 1 }.insertAll label (m + 1) ms

/-- Puts a number into an ascending list, unless it is there. -/
def insertAscending (n : Nat) : List Nat → List Nat
  | [] => [n]
  | m :: ms => if n < m then n :: m :: ms else if n = m then m :: ms else m :: insertAscending n ms

/-- Writes a label. -/
def encode (label : List Nat) : List Char :=
  let basic := (label.filter (· < 128)).map Char.ofNat
  let others := (label.filter (128 ≤ ·)).foldr insertAscending []
  let start := if basic.isEmpty then [] else basic ++ ['-']
  (({ output := start, count := basic.length : Writer }).insertAll label 128 others).output

/-! ## Reading -/

/-- Where reading stands. -/
structure Reader where
  output : List Nat
  /-- The code point that was inserted last. -/
  last : Nat := 128
  /-- The place to insert at. -/
  index : Nat := 0
  bias : Nat := 72
  /-- The number that is being read, what a digit of it counts, and its place. -/
  number : Nat := 0
  weight : Nat := 1
  place : Nat := 36
  first : Bool := true

/-- Whether a number is a code point that a character has. -/
def isScalar (n : Nat) : Bool := n < 0xD800 || (0xDFFF < n && n < 0x110000)

/-- Inserts the character that a number stands for. -/
def Reader.insert? (r : Reader) (number : Nat) : Option Reader :=
  let count := r.output.length + 1
  let position := r.index + number
  -- one round through the positions is one step to the next character
  let n := r.last + position / count
  let index := position % count
  if isScalar n then
    some
      { output := r.output.take index ++ n :: r.output.drop index
        last := n
        index := index + 1
        bias := adapt number count r.first
        first := false }
  else none

/-- Reads a digit. -/
def Reader.digit? (r : Reader) (c : Char) : Option Reader := do
  let d ← value? c
  let number := r.number + d * r.weight
  let t := threshold r.bias r.place
  if d < t then r.insert? number
  else some { r with number, weight := r.weight * (36 - t), place := r.place + 36 }

/-- Cuts a label at its last hyphen.  A hyphen in front is no cut: it would have
    nothing before it. -/
def cut (cs : List Char) : List Char × List Char :=
  let rest := (cs.reverse.takeWhile (· != '-')).reverse
  let basic := cs.take (cs.length - rest.length - 1)
  if basic.isEmpty then ([], cs) else (basic, rest)

/-- Reads a label. -/
def decode? (cs : List Char) : Option (List Nat) := do
  let (basic, rest) := cut cs
  if basic.any fun c => 128 ≤ c.toNat then none
  else
    let r ← rest.foldlM Reader.digit? { output := basic.map Char.toNat }
    if r.weight = 1 then some r.output else none

example : encode ("bücher".toList.map Char.toNat) = "bcher-kva".toList := by cbv

example : decode? "bcher-kva".toList = some ("bücher".toList.map Char.toNat) := by cbv

end BlockMail.DomainName.Punycode
