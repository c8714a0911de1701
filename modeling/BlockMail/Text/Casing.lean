import BlockMail.Text.CaseTable

/-! # Capitals and small letters

`capitals` writes every letter of a text in its capital form, which may be
several characters long.  `smallLetters` goes the other way; a capital sigma at
the end of a word becomes the final form of the small letter.
-/

namespace BlockMail.Text

/-- The capital form of one character; a character without one stays. -/
def capitalOf (c : Char) : List Char :=
  match capitalExpansions.find? (fun e => e.1 == c.toNat) with
  | some (_, expansion) => expansion.toList
  | none =>
    match capitalRuns.findSome? (·.map? c.toNat) with
    | some n => [Char.ofNat n]
    | none => [c]

def capitals (s : String) : String :=
  String.ofList (s.toList.flatMap capitalOf)

/-- The letters, after characters that are looked through, begin with a letter
    that has case. -/
def meetsCased (cs : List Char) : Bool :=
  match cs.dropWhile (fun c => caseIgnorableRanges.contains c.toNat) with
  | [] => false
  | c :: _ => casedRanges.contains c.toNat

/-- The small form of one character, the characters before it (nearest first)
    and after it being given.  Two letters need more than the table: the dotted
    capital I keeps its dot, and sigma looks whether its word ends. -/
def smallOf (before : List Char) (c : Char) (after : List Char) : List Char :=
  if c = '\u03a3' then
    if meetsCased before && !meetsCased after then ['\u03c2'] else ['\u03c3']
  else if c = '\u0130' then ['i', '\u0307']
  else match smallRuns.findSome? (·.map? c.toNat) with
    | some n => [Char.ofNat n]
    | none => [c]

/-- Small forms of the characters that follow `before`. -/
def smallFrom (before : List Char) : List Char → List Char
  | [] => []
  | c :: cs => smallOf before c cs ++ smallFrom (c :: before) cs

def smallLetters (s : String) : String :=
  String.ofList (smallFrom [] s.toList)

/-! ## Small lemmas -/

theorem smallOf_ne_nil (before : List Char) (c : Char) (after : List Char) :
    smallOf before c after ≠ [] := by
  unfold smallOf
  split
  · split <;> simp
  · split
    · simp
    · split <;> simp

/-- Small letters never make a text vanish. -/
theorem smallFrom_eq_nil_iff (before cs : List Char) : smallFrom before cs = [] ↔ cs = [] := by
  cases cs with
  | nil => simp [smallFrom]
  | cons c cs => simp [smallFrom, smallOf_ne_nil]

end BlockMail.Text
