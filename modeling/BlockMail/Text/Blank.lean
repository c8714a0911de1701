/-! # Blank text

What counts as white space, and the tests for a value that is not worth
printing.  Two grades of "missing" occur throughout the mailer:

- `present?` drops the empty string only;
- `nonBlank?` also drops text that consists of white space.

`trim` removes the white space around a text and `words` splits at it.  All of
them agree on one class of characters, `isBlankChar`.
-/

namespace BlockMail.Text

/-- The characters with the Unicode property White_Space. -/
def isBlankChar (c : Char) : Bool :=
  let n := c.toNat
  (9 ≤ n && n ≤ 13) || n == 0x20 || n == 0x85 || n == 0xA0 || n == 0x1680
    || (0x2000 ≤ n && n ≤ 0x200A) || n == 0x2028 || n == 0x2029 || n == 0x202F
    || n == 0x205F || n == 0x3000

/-- A text is blank when every character of it is white space; the empty text
    is blank. -/
def isBlank (s : String) : Bool :=
  s.toList.all isBlankChar

/-- Removes white space from both ends. -/
def trimChars (cs : List Char) : List Char :=
  ((cs.dropWhile isBlankChar).reverse.dropWhile isBlankChar).reverse

/-- Removes white space from both ends. -/
def trim (s : String) : String :=
  String.ofList (trimChars s.toList)

/-- The value, unless it is the empty string. -/
def present? (value : Option String) : Option String :=
  value.filter (· != "")

/-- The value, unless it is blank. -/
def nonBlank? (value : Option String) : Option String :=
  value.filter (fun s => !isBlank s)

/-- The first maximal run of characters that are not white space. -/
def firstWord? (s : String) : Option String :=
  match (s.toList.dropWhile isBlankChar).takeWhile (fun c => !isBlankChar c) with
  | [] => none
  | word => some (String.ofList word)

/-- The text without any of its white space. -/
def squeeze (s : String) : String :=
  String.ofList (s.toList.filter (fun c => !isBlankChar c))

/-! ## Small lemmas -/

@[simp] theorem isBlank_empty : isBlank "" = true := rfl

@[simp] theorem present?_none : present? none = none := rfl

@[simp] theorem nonBlank?_none : nonBlank? none = none := rfl

theorem present?_eq_some_iff {value : Option String} {s : String} :
    present? value = some s ↔ value = some s ∧ s ≠ "" := by
  simp only [present?, Option.filter_eq_some_iff, bne_iff_ne]

theorem nonBlank?_eq_some_iff {value : Option String} {s : String} :
    nonBlank? value = some s ↔ value = some s ∧ isBlank s = false := by
  simp only [nonBlank?, Option.filter_eq_some_iff, Bool.not_eq_true']

theorem present?_eq_none_iff {value : Option String} :
    present? value = none ↔ ∀ s ∈ value, s = "" := by
  simp only [present?, Option.filter_eq_none_iff, bne_iff_ne, ne_eq, Decidable.not_not,
    Option.mem_def]

theorem nonBlank?_eq_none_iff {value : Option String} :
    nonBlank? value = none ↔ ∀ s ∈ value, isBlank s = true := by
  simp only [nonBlank?, Option.filter_eq_none_iff, Bool.not_eq_true, Bool.not_eq_false',
    Option.mem_def]

end BlockMail.Text
