import BlockMail.Json.Numeral
import BlockMail.Text.CodeRanges

/-! # Tokens of a JSON text

- `scanString` reads the inside of a string up to its closing quote.  Escapes
  are checked for their form only: `\u` takes four hexadecimal digits, and
  whether two such units make up a character is asked later, by `spell?`.
- `tokens` cuts a text into tokens.  Where the text goes wrong the list ends
  with `Token.fault`.
-/

namespace BlockMail.Json

/-! ## Strings -/

/-- What a string is written with: characters, and 16-bit units in `\u` escapes. -/
inductive StringUnit where
  | char (c : Char)
  | code (n : Nat)
  deriving DecidableEq, Repr, Inhabited

/-- The character that a letter after a backslash stands for. -/
def escapeOf? : Char → Option Char
  | '"' => some '"'
  | '\\' => some '\\'
  | '/' => some '/'
  | 'b' => some '\x08'
  | 'f' => some '\x0c'
  | 'n' => some '\n'
  | 'r' => some '\r'
  | 't' => some '\t'
  | _ => none

/-- The number that four hexadecimal digits denote. -/
def hexUnit? (a b c d : Char) : Option Nat := do
  let a ← Text.hexDigit? a
  let b ← Text.hexDigit? b
  let c ← Text.hexDigit? c
  let d ← Text.hexDigit? d
  return ((a * 16 + b) * 16 + c) * 16 + d

/-- The inside of a string and what follows its closing quote. -/
def scanString : List Char → Option (List StringUnit × List Char)
  | [] => none
  | '"' :: cs => some ([], cs)
  | '\\' :: 'u' :: a :: b :: c :: d :: cs =>
    match hexUnit? a b c d with
    | none => none
    | some n => (scanString cs).map fun r => (.code n :: r.1, r.2)
  | '\\' :: e :: cs =>
    match escapeOf? e with
    | none => none
    | some c => (scanString cs).map fun r => (.char c :: r.1, r.2)
  | c :: cs =>
    -- a control character must be written as an escape
    if c.toNat < 0x20 ∨ c = '\\' then none
    else (scanString cs).map fun r => (.char c :: r.1, r.2)

/-- The character of a unit that stands on its own. -/
def loneUnit? (n : Nat) : Option Char :=
  if 0xD800 ≤ n ∧ n < 0xE000 then none else some (Char.ofNat n)

/-- The character of a leading and a trailing unit. -/
def unitPair? (lead trail : Nat) : Option Char :=
  if 0xD800 ≤ lead ∧ lead < 0xDC00 ∧ 0xDC00 ≤ trail ∧ trail < 0xE000 then
    some (Char.ofNat (0x10000 + (lead - 0xD800) * 0x400 + (trail - 0xDC00)))
  else none

/-- The text of a string, if its units make up characters. -/
def spell? : List StringUnit → Option (List Char)
  | [] => some []
  | .char c :: us => (spell? us).map (c :: ·)
  | .code n :: us =>
    match loneUnit? n with
    | some c => (spell? us).map (c :: ·)
    | none =>
      -- the first half of a pair: the second must be behind it
      match us with
      | .code m :: rest =>
        match unitPair? n m with
        | some c => (spell? rest).map (c :: ·)
        | none => none
      | _ => none

/-- The text of a string, if its units make up characters. -/
def textOf? (us : List StringUnit) : Option String :=
  (spell? us).map String.ofList

/-! ## Tokens -/

/-- The smallest meaningful pieces of a JSON text. -/
inductive Token where
  | openArray
  | closeArray
  | openObject
  | closeObject
  | comma
  | colon
  | null
  | bool (b : Bool)
  | number (n : Numeral)
  | string (units : List StringUnit)
  /-- No token of JSON starts here; the rest of the text is not looked at. -/
  | fault
  deriving DecidableEq, Repr, Inhabited

/-- The four characters that may stand between tokens. -/
def isSpace (c : Char) : Bool :=
  c = ' ' || c = '\t' || c = '\n' || c = '\r'

/-- The token at the start of a text, and what follows it. -/
def nextToken? : List Char → Option (Token × List Char)
  | '[' :: cs => some (.openArray, cs)
  | ']' :: cs => some (.closeArray, cs)
  | '\x7b' :: cs => some (.openObject, cs)
  | '\x7d' :: cs => some (.closeObject, cs)
  | ',' :: cs => some (.comma, cs)
  | ':' :: cs => some (.colon, cs)
  | 'n' :: 'u' :: 'l' :: 'l' :: cs => some (.null, cs)
  | 't' :: 'r' :: 'u' :: 'e' :: cs => some (.bool true, cs)
  | 'f' :: 'a' :: 'l' :: 's' :: 'e' :: cs => some (.bool false, cs)
  | '"' :: cs => (scanString cs).map fun r => (.string r.1, r.2)
  | cs => (Numeral.scan? cs).map fun r => (.number r.1, r.2)

theorem length_scanString {cs : List Char} {r : List StringUnit × List Char}
    (h : scanString cs = some r) : r.2.length < cs.length := by
  fun_induction scanString cs generalizing r with
  | case1 => simp at h
  | case2 cs => cases h; simp
  | case3 => simp at h
  | case4 a b c d cs n hn ih =>
    obtain ⟨s, hs, rfl⟩ := Option.map_eq_some_iff.1 h
    have := ih hs
    simp; omega
  | case5 => simp at h
  | case6 e cs _ c hc ih =>
    obtain ⟨s, hs, rfl⟩ := Option.map_eq_some_iff.1 h
    have := ih hs
    simp; omega
  | case7 => simp at h
  | case8 c cs _ _ _ hc ih =>
    obtain ⟨s, hs, rfl⟩ := Option.map_eq_some_iff.1 h
    have := ih hs
    simp; omega

/-- A token takes at least one character. -/
theorem length_nextToken? {cs : List Char} {r : Token × List Char}
    (h : nextToken? cs = some r) : r.2.length < cs.length := by
  unfold nextToken? at h
  split at h
  case h_10 =>
    obtain ⟨s, hs, rfl⟩ := Option.map_eq_some_iff.1 h
    have := length_scanString hs
    simp; omega
  case h_11 =>
    obtain ⟨s, hs, rfl⟩ := Option.map_eq_some_iff.1 h
    exact Numeral.length_scan? hs
  all_goals
    cases h
    simp
    try omega

/-- The tokens of a text. -/
def tokens (cs : List Char) : List Token :=
  match _h : nextToken? (cs.dropWhile isSpace) with
  | some (t, rest) => t :: tokens rest
  | none => if cs.all isSpace then [] else [.fault]
termination_by cs.length
decreasing_by
  have := length_nextToken? _h
  have := (List.dropWhile_sublist isSpace (l := cs)).length_le
  simp only at *
  omega

end BlockMail.Json
