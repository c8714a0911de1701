import BlockMail.Text.CodeMap
import BlockMail.Text.NormalTable

/-! # Canonical composition

Texts that differ only in how accents are written have one canonical composition.
It is found in three steps:

- `decompose` takes every character apart;
- `order` sorts the marks behind each base by their classes, keeping the order of
  marks of one class;
- `compose` puts characters together again, each with the base before it, unless a
  mark of the same class or a higher one stands between them.

A pair is composed into the character whose decomposition is that of the base with
the second one behind it.  Hangul syllables follow a rule of their own.
-/

namespace BlockMail.Text.Normal

def decompositions : CodeMap := .ofLines NormalTable.decompositions

/-- Characters that are never composed. -/
def excluded : CodeRanges := .ofLines NormalTable.excluded

def combiningClasses : CodeMap := .ofLines NormalTable.combiningClasses

/-- The class of a code point; bases have class zero. -/
def combiningClass (n : Nat) : Nat :=
  ((combiningClasses.get? n).bind List.head?).getD 0

/-! ## Hangul -/

/-- The first syllable; syllables are ordered by their leading consonant, their
    vowel and their trailing consonant. -/
def firstSyllable : Nat := 0xAC00

/-- The first leading consonant; there are nineteen. -/
def firstLeading : Nat := 0x1100

def firstVowel : Nat := 0x1161

/-- One below the first trailing consonant: a syllable may have none. -/
def noTrailing : Nat := 0x11A7

def vowels : Nat := 21

/-- The number of trailing consonants and one for none. -/
def trailings : Nat := 28

def syllables : Nat := 19 * vowels * trailings

/-- The letters of a syllable. -/
def decomposeSyllable? (n : Nat) : Option (List Nat) :=
  if firstSyllable ≤ n ∧ n < firstSyllable + syllables then
    let i := n - firstSyllable
    let base := [firstLeading + i / (vowels * trailings), firstVowel + i / trailings % vowels]
    if i % trailings = 0 then some base else some (base ++ [noTrailing + i % trailings])
  else none

/-- The syllable that a letter makes with the syllable or letter before it. -/
def composeSyllable? (base n : Nat) : Option Nat :=
  if firstLeading ≤ base ∧ base < firstLeading + 19 ∧ firstVowel ≤ n ∧ n < firstVowel + vowels then
    some (firstSyllable + ((base - firstLeading) * vowels + (n - firstVowel)) * trailings)
  else if firstSyllable ≤ base ∧ base < firstSyllable + syllables
      ∧ (base - firstSyllable) % trailings = 0 ∧ noTrailing < n ∧ n < noTrailing + trailings then
    some (base + (n - noTrailing))
  else none

/-! ## The three steps -/

/-- The full decomposition of a code point. -/
def decomposition (n : Nat) : List Nat :=
  match decomposeSyllable? n with
  | some letters => letters
  | none => (decompositions.get? n).getD [n]

/-- Takes every character apart. -/
def decompose (ns : List Nat) : List Nat := ns.flatMap decomposition

/-- Puts a mark behind the marks of lower classes that stand at the front. -/
def place (n : Nat) : List Nat → List Nat
  | [] => [n]
  | m :: ms =>
    if 0 < combiningClass m ∧ combiningClass m < combiningClass n then m :: place n ms
    else n :: m :: ms

/-- Sorts marks by their classes. -/
def order (ns : List Nat) : List Nat := ns.foldr place []

/-- The character that a base and a second character make. -/
def composite? (base n : Nat) : Option Nat :=
  match composeSyllable? base n with
  | some syllable => some syllable
  | none =>
    let parts := decomposition base ++ [n]
    (decompositions.entries.find? fun e =>
      e.first = e.last && e.image = parts && !excluded.contains e.first).map (·.first)

/-- A base with the marks behind it that it has not taken in, the last one first. -/
structure Cluster where
  base : Nat
  marks : List Nat

/-- A cluster as it is written. -/
def Cluster.written (c : Cluster) : List Nat := c.base :: c.marks.reverse

/-- Whether a character reaches the base. -/
def Cluster.isOpenTo (c : Cluster) (n : Nat) : Bool :=
  match c.marks with
  | [] => true
  | m :: _ => combiningClass m < combiningClass n

/-- Puts characters together, after a cluster. -/
def composeFrom (c : Cluster) : List Nat → List Nat
  | [] => c.written
  | n :: ns =>
    match if c.isOpenTo n then composite? c.base n else none with
    | some composite => composeFrom { c with base := composite } ns
    | none =>
      -- a starter that joins nothing opens a cluster of its own
      if combiningClass n = 0 then c.written ++ composeFrom ⟨n, []⟩ ns
      else composeFrom { c with marks := n :: c.marks } ns

/-- Puts characters together.  Marks in front of the first base stay alone. -/
def compose : List Nat → List Nat
  | [] => []
  | n :: ns => if combiningClass n = 0 then composeFrom ⟨n, []⟩ ns else n :: compose ns

/-- The canonical composition of a text, as code points. -/
def canonical (ns : List Nat) : List Nat := compose (order (decompose ns))

end BlockMail.Text.Normal
