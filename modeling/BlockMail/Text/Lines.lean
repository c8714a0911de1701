import BlockMail.Text.Blank
import BlockMail.Text.Pieces

/-! # Lines of a text

Two ways to cut a text into lines, which differ on what ends a line:

- `pieces` cuts at every line feed, so there is one piece more than there are
  line feeds, and a final line feed leaves an empty last piece;
- `lines` reads line feeds, with a carriage return before them, as terminators:
  a final one adds nothing, and a carriage return alone ends no line.
-/

namespace BlockMail.Text

/-- The stretches between line feeds. -/
def pieces (cs : List Char) : List (List Char) :=
  piecesAt (· == '\n') cs

/-- Removes one carriage return from the end, if there is one. -/
def dropReturn (cs : List Char) : List Char :=
  if cs.getLast? = some '\r' then cs.dropLast else cs

/-- The terminated lines without their terminators, then what follows the last
    line feed unless that is empty. -/
def lines (cs : List Char) : List (List Char) :=
  let all := pieces cs
  all.dropLast.map dropReturn ++ (all.getLast?.toList.filter (fun l => !l.isEmpty))

/-- The lines that bullets are made of: trimmed, blank ones dropped. -/
def bulletLines (s : String) : List String :=
  (((lines s.toList).map trimChars).filter (fun l => !l.isEmpty)).map String.ofList

/-- The lines that paragraphs are made of: one for every piece, without a
    carriage return at its end. -/
def plainLines (s : String) : List String :=
  ((pieces s.toList).map dropReturn).map String.ofList

/-! ## Small lemmas -/

theorem pieces_ne_nil (cs : List Char) : pieces cs ≠ [] :=
  piecesAt_ne_nil _ cs

/-- There is one piece more than there are line feeds. -/
theorem length_pieces (cs : List Char) : (pieces cs).length = cs.count '\n' + 1 :=
  length_piecesAt _ cs

end BlockMail.Text
