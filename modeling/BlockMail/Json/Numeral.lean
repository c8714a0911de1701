import BlockMail.Json.Value

/-! # Numerals

Numbers as they are written in a JSON text, and what they stand for.

- `Numeral.scan?` reads the grammar: an optional minus, digits without a
  needless leading zero, then optionally a point with digits and an exponent.
- `Numeral.number?` gives the number, or nothing when it is out of range.

A numeral is out of range when it does not round to a finite number of binary64.
The reader decides this from as many leading digits as fit into 64 bits, rounds
these and the power of ten to 53 binary digits each, and multiplies.
-/

namespace BlockMail.Json

/-- A number as written.  Digits are numbers below ten, most significant first. -/
structure Numeral where
  negative : Bool
  whole : List Nat
  fraction : Option (List Nat)
  /-- Whether the exponent has a minus, and its digits. -/
  exponent : Option (Bool × List Nat)
  deriving DecidableEq, Repr, Inhabited

/-! ## Scanning -/

/-- The digits at the start of a text and what follows them. -/
def scanDigits (cs : List Char) : List Nat × List Char :=
  ((cs.takeWhile Char.isDigit).map (fun c => c.toNat - '0'.toNat), cs.dropWhile Char.isDigit)

/-- At least one digit. -/
def scanSomeDigits? (cs : List Char) : Option (List Nat × List Char) :=
  if (scanDigits cs).1 = [] then none else some (scanDigits cs)

/-- A whole part: a lone zero, or digits of which the first is none. -/
def scanWhole? : List Char → Option (List Nat × List Char)
  | '0' :: cs => if (scanDigits cs).1 = [] then some ([0], cs) else none
  | cs => scanSomeDigits? cs

/-- A fraction, if there is a point. -/
def scanFraction? : List Char → Option (Option (List Nat) × List Char)
  | '.' :: cs => (scanSomeDigits? cs).map fun r => (some r.1, r.2)
  | cs => some (none, cs)

/-- An exponent, if there is the letter for one. -/
def scanExponent? : List Char → Option (Option (Bool × List Nat) × List Char)
  | c :: cs =>
    if c = 'e' ∨ c = 'E' then
      match cs with
      | '-' :: ds => (scanSomeDigits? ds).map fun r => (some (true, r.1), r.2)
      | '+' :: ds => (scanSomeDigits? ds).map fun r => (some (false, r.1), r.2)
      | ds => (scanSomeDigits? ds).map fun r => (some (false, r.1), r.2)
    else some (none, c :: cs)
  | [] => some (none, [])

/-- A numeral at the start of a text, and what follows it. -/
def Numeral.scan? (cs : List Char) : Option (Numeral × List Char) := do
  let (negative, cs) := match cs with
    | '-' :: cs => (true, cs)
    | cs => (false, cs)
  let (whole, cs) ← scanWhole? cs
  let (fraction, cs) ← scanFraction? cs
  let (exponent, cs) ← scanExponent? cs
  return (⟨negative, whole, fraction, exponent⟩, cs)

/-! ## Range -/

/-- The number that digits denote. -/
def ofDigits (ds : List Nat) : Nat := ds.foldl (fun n d => n * 10 + d) 0

/-- Appends digits to `n` for as long as the result fits into 64 bits; the result
    and how many digits were appended. -/
def appendFitting (n : Nat) : List Nat → Nat × Nat
  | [] => (n, 0)
  | d :: ds =>
    if n * 10 + d < UInt64.size then
      let (m, k) := appendFitting (n * 10 + d) ds
      (m, k + 1)
    else (n, 0)

/-- Rounds to 53 binary digits; a tie goes to the even neighbour. -/
def roundTo53 (n : Nat) : Nat :=
  if n < Nat.pow 2 53 then n
  else
    let shift := n.log2 - 52
    let kept := n / Nat.pow 2 shift
    let cut := n % Nat.pow 2 shift
    let half := Nat.pow 2 (shift - 1)
    -- a tie goes to the even neighbour
    let up := cut > half || (cut == half && kept % 2 == 1)
    (if up then kept + 1 else kept) * Nat.pow 2 shift

/-- The least number that rounds beyond the greatest finite number of binary64. -/
def overflowBound : Nat := Nat.pow 2 1024 - Nat.pow 2 970

/-- Whether `significand * 10 ^ exponent`, computed on rounded factors, is finite. -/
def isFinite (significand : Nat) (exponent : Int) : Bool :=
  if significand = 0 ∨ exponent ≤ 0 then true
  else if exponent > 308 then false
  else roundTo53 significand * roundTo53 (Nat.pow 10 exponent.toNat) < overflowBound

/-- The leading digits that fit into 64 bits, and the power of ten they are to be
    multiplied with. -/
def Numeral.scaled (n : Numeral) : Nat × Int :=
  let (s, k) := appendFitting 0 n.whole
  let (s, j) := appendFitting s (n.fraction.getD [])
  let e : Int := match n.exponent with
    | some (true, ds) => - (ofDigits ds : Int)
    | some (false, ds) => ofDigits ds
    | none => 0
  -- each digit left out of the whole part is one more power of ten
  (s, ((n.whole.length - k : Nat) : Int) - j + e)

/-- What a numeral stands for, if that is in range.  It is a whole number only if
    it is written without a point and an exponent, is not minus zero and fits into
    64 bits. -/
def Numeral.number? (n : Numeral) : Option Number :=
  let (significand, exponent) := n.scaled
  let other := if isFinite significand exponent then
    some (.decimal n.negative significand exponent) else none
  match n.fraction, n.exponent with
  | none, none =>
    let m := ofDigits n.whole
    if n.negative then
      -- minus zero is no integer
      if 0 < m ∧ m ≤ Nat.pow 2 63 then some (.integer (-(m : Int))) else other
    else if m < UInt64.size then some (.integer m) else other
  | _, _ => other

/-! ## What follows is shorter -/

theorem length_scanDigits (cs : List Char) :
    (scanDigits cs).1.length + (scanDigits cs).2.length = cs.length := by
  simp only [scanDigits, List.length_map]
  rw [← List.length_append, List.takeWhile_append_dropWhile]

theorem length_scanSomeDigits? {cs : List Char} {r : List Nat × List Char}
    (h : scanSomeDigits? cs = some r) : r.2.length < cs.length := by
  unfold scanSomeDigits? at h
  split at h
  · simp at h
  · rename_i hne
    cases h
    have := length_scanDigits cs
    have := List.length_pos_iff.2 hne
    omega

theorem length_scanWhole? {cs : List Char} {r : List Nat × List Char}
    (h : scanWhole? cs = some r) : r.2.length < cs.length := by
  unfold scanWhole? at h
  split at h
  · split at h
    · cases h; simp
    · simp at h
  · exact length_scanSomeDigits? h

theorem length_scanFraction? {cs : List Char} {r : Option (List Nat) × List Char}
    (h : scanFraction? cs = some r) : r.2.length ≤ cs.length := by
  unfold scanFraction? at h
  split at h
  · obtain ⟨d, hd, rfl⟩ := Option.map_eq_some_iff.1 h
    have := length_scanSomeDigits? hd
    simp; omega
  · cases h; simp

theorem length_scanExponent? {cs : List Char} {r : Option (Bool × List Nat) × List Char}
    (h : scanExponent? cs = some r) : r.2.length ≤ cs.length := by
  unfold scanExponent? at h
  split at h
  · split at h
    · split at h <;>
      · obtain ⟨d, hd, rfl⟩ := Option.map_eq_some_iff.1 h
        have := length_scanSomeDigits? hd
        simp at this ⊢; omega
    · cases h; simp
  · cases h; simp

/-- A numeral takes at least one character. -/
theorem Numeral.length_scan? {cs : List Char} {r : Numeral × List Char}
    (h : Numeral.scan? cs = some r) : r.2.length < cs.length := by
  simp only [Numeral.scan?, Option.bind_eq_bind, Option.bind_eq_some_iff] at h
  obtain ⟨w, hw, f, hf, e, he, hr⟩ := h
  cases hr
  have hw := length_scanWhole? hw
  have hf := length_scanFraction? hf
  have he := length_scanExponent? he
  have : (match cs with
    | '-' :: cs => (true, cs)
    | cs => (false, cs)).2.length ≤ cs.length := by
    split <;> simp
  simp only at *
  omega

end BlockMail.Json
