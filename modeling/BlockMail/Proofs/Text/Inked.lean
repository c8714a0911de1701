import BlockMail.Proofs.Text.Lines
import Mathlib.Data.List.DropRight

/-! # Lines with something on them

The two ways to cut a text into lines differ on carriage returns, on a lone one at the end, and on
a text that ends with a line feed.  What they leave when the lines are trimmed and the empty ones
dropped is the same (`inked_lines`), and it is the same when the text is trimmed as a whole before
it is cut (`inked_pieces_trimChars`).
-/

namespace BlockMail.Text

/-! ## Where trimming ends -/

section Trimming

variable {c : Char}

theorem trimChars_cons_blank (cs : List Char) (h : isBlankChar c = true) :
    trimChars (c :: cs) = trimChars cs := by
  simp only [trimChars, List.dropWhile_cons_of_pos h]

theorem trimChars_append_blank (cs : List Char) (h : isBlankChar c = true) :
    trimChars (cs ++ [c]) = trimChars cs := by
  simp only [trimChars, List.dropWhile_append]
  cases cs.dropWhile isBlankChar with
  | nil => simp [h]
  | cons a rest => simp [h]

theorem trimChars_dropReturn (cs : List Char) : trimChars (dropReturn cs) = trimChars cs := by
  unfold dropReturn
  split
  · rename_i hlast
    have hreturn : cs.dropLast ++ ['\r'] = cs := List.dropLast_append_getLast? '\r' hlast
    have htrim := trimChars_append_blank cs.dropLast (c := '\r') rfl
    rw [hreturn] at htrim
    exact htrim.symm
  · rfl

theorem exists_trimChars_eq_append {cs : List Char} (h : trimChars cs ≠ []) :
    ∃ front last, trimChars cs = front ++ [last] ∧ isBlankChar last = false := by
  have hlast := List.rdropWhile_last_not isBlankChar (cs.dropWhile isBlankChar) h
  refine ⟨_, _, (List.dropLast_append_getLast h).symm, ?_⟩
  exact Bool.eq_false_iff.mpr hlast

theorem trimChars_eq_self {cs front back : List Char} {first last : Char}
    (hfirst : cs = first :: back) (hlast : cs = front ++ [last])
    (hf : isBlankChar first = false) (hl : isBlankChar last = false) : trimChars cs = cs := by
  have hfront : cs.dropWhile isBlankChar = cs := by
    rw [hfirst, List.dropWhile_cons_of_neg (Bool.eq_false_iff.mp hf)]
  have hback : cs.rdropWhile isBlankChar = cs := by
    rw [hlast, List.rdropWhile_concat_neg _ _ _ (Bool.eq_false_iff.mp hl)]
  show (cs.dropWhile isBlankChar).rdropWhile isBlankChar = cs
  rw [hfront, hback]

end Trimming

/-! ## Pieces of a text that goes on -/

section Pieces

universe u

variable {α : Type u} {isSeparator : α → Bool}

theorem piecesAt_append_cons_separator (cs rest : List α) {s : α} (hs : isSeparator s = true) :
    piecesAt isSeparator (cs ++ s :: rest)
      = piecesAt isSeparator cs ++ piecesAt isSeparator rest := by
  induction cs with
  | nil => exact piecesAt_cons_separator rest hs
  | cons a cs ih =>
    cases ha : isSeparator a with
    | true =>
      rw [List.cons_append, piecesAt_cons_separator _ ha, piecesAt_cons_separator _ ha, ih]
      rfl
    | false =>
      obtain ⟨piece, pieces, hcs⟩ := exists_piecesAt_cons isSeparator cs
      rw [hcs] at ih
      rw [List.cons_append, piecesAt_cons_other ha hcs, piecesAt_cons_other ha ih]
      rfl

theorem exists_piecesAt_append_other (cs : List α) {c : α} (hc : isSeparator c = false) :
    ∃ before last, piecesAt isSeparator cs = before ++ [last]
      ∧ piecesAt isSeparator (cs ++ [c]) = before ++ [last ++ [c]] := by
  induction cs with
  | nil => exact ⟨[], [], rfl, piecesAt_cons_other hc rfl⟩
  | cons a cs ih =>
    obtain ⟨before, last, hcs, hgrown⟩ := ih
    cases ha : isSeparator a with
    | true =>
      refine ⟨[] :: before, last, ?_, ?_⟩
      · rw [piecesAt_cons_separator cs ha, hcs, List.cons_append]
      · rw [List.cons_append, piecesAt_cons_separator _ ha, hgrown, List.cons_append]
    | false =>
      cases before with
      | nil => exact ⟨[], a :: last, piecesAt_cons_other ha hcs, piecesAt_cons_other ha hgrown⟩
      | cons piece before =>
        exact ⟨(a :: piece) :: before, last, piecesAt_cons_other ha hcs,
          piecesAt_cons_other ha hgrown⟩

end Pieces

/-! ## What stands on lines -/

/-- The lines trimmed, those on which nothing is left dropped. -/
def inked (ls : List (List Char)) : List (List Char) :=
  (ls.map trimChars).filter fun l => !l.isEmpty

theorem inked_nil_cons (ls : List (List Char)) : inked ([] :: ls) = inked ls := rfl

theorem inked_append (ls ls' : List (List Char)) : inked (ls ++ ls') = inked ls ++ inked ls' := by
  unfold inked
  rw [List.map_append, List.filter_append]

theorem inked_cons_congr {l l' : List Char} (ls : List (List Char))
    (h : trimChars l = trimChars l') : inked (l :: ls) = inked (l' :: ls) := by
  simp only [inked, List.map_cons, h]

theorem inked_map_dropReturn (ls : List (List Char)) : inked (ls.map dropReturn) = inked ls := by
  have htrim : trimChars ∘ dropReturn = trimChars := funext trimChars_dropReturn
  unfold inked
  rw [List.map_map, htrim]

/-- Both ways to cut a text into lines find the same on them. -/
theorem inked_lines (cs : List Char) : inked (lines cs) = inked (pieces cs) := by
  have hpieces := List.dropLast_append_getLast (pieces_ne_nil cs)
  have hlines : lines cs = (pieces cs).dropLast.map dropReturn
      ++ [(pieces cs).getLast (pieces_ne_nil cs)].filter fun l => !l.isEmpty := by
    simp only [lines, List.getLast?_eq_some_getLast (pieces_ne_nil cs), Option.toList_some]
  have hlast (last : List Char) : inked ([last].filter fun l => !l.isEmpty) = inked [last] := by
    cases last <;> rfl
  rw [hlines, inked_append, inked_map_dropReturn, hlast, ← inked_append, hpieces]

theorem inked_pieces_cons_blank (cs : List Char) {c : Char} (h : isBlankChar c = true) :
    inked (pieces (c :: cs)) = inked (pieces cs) := by
  cases hc : c == '\n' with
  | true =>
    have hpieces : pieces (c :: cs) = [] :: pieces cs := piecesAt_cons_separator cs hc
    rw [hpieces, inked_nil_cons]
  | false =>
    obtain ⟨piece, rest, hcs⟩ : ∃ piece rest, pieces cs = piece :: rest :=
      exists_piecesAt_cons _ cs
    have hpieces : pieces (c :: cs) = (c :: piece) :: rest := piecesAt_cons_other hc hcs
    rw [hpieces, hcs]
    exact inked_cons_congr rest (trimChars_cons_blank piece h)

theorem inked_pieces_append_blank (cs : List Char) {c : Char} (h : isBlankChar c = true) :
    inked (pieces (cs ++ [c])) = inked (pieces cs) := by
  cases hc : c == '\n' with
  | true =>
    have hpieces : pieces (cs ++ [c]) = pieces cs ++ [[]] :=
      piecesAt_append_cons_separator cs [] hc
    rw [hpieces, inked_append]
    exact List.append_nil _
  | false =>
    obtain ⟨before, last, hcs, hgrown⟩ : ∃ before last, pieces cs = before ++ [last]
        ∧ pieces (cs ++ [c]) = before ++ [last ++ [c]] := exists_piecesAt_append_other cs hc
    rw [hcs, hgrown, inked_append, inked_append]
    exact congrArg _ (inked_cons_congr [] (trimChars_append_blank last h))

theorem inked_pieces_dropWhile (cs : List Char) :
    inked (pieces (cs.dropWhile isBlankChar)) = inked (pieces cs) := by
  induction cs with
  | nil => rfl
  | cons c cs ih =>
    cases hc : isBlankChar c with
    | true => rw [List.dropWhile_cons_of_pos hc, ih, inked_pieces_cons_blank cs hc]
    | false => rw [List.dropWhile_cons_of_neg (Bool.eq_false_iff.mp hc)]

theorem inked_pieces_rdropWhile (cs : List Char) :
    inked (pieces (cs.rdropWhile isBlankChar)) = inked (pieces cs) := by
  induction cs using List.reverseRecOn with
  | nil => rfl
  | append_singleton cs c ih =>
    cases hc : isBlankChar c with
    | true => rw [List.rdropWhile_concat_pos _ _ _ hc, ih, inked_pieces_append_blank cs hc]
    | false => rw [List.rdropWhile_concat_neg _ _ _ (Bool.eq_false_iff.mp hc)]

theorem inked_pieces_trimChars (cs : List Char) :
    inked (pieces (trimChars cs)) = inked (pieces cs) := by
  have htrim : trimChars cs = (cs.dropWhile isBlankChar).rdropWhile isBlankChar := rfl
  rw [htrim, inked_pieces_rdropWhile, inked_pieces_dropWhile]

end BlockMail.Text
