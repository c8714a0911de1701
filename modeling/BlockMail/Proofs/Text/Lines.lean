import BlockMail.Text.Lines
import Mathlib.Data.List.TakeWhile

/-! # What is in a piece

No piece of a text contains the separator, and a text that is put together from
pieces without a separator is cut into just these pieces again.  The lines of a
text come out of its pieces, so no line contains a line feed either.  Trimming
leaves nothing of a text just if it is blank.
-/

namespace BlockMail.Text

/-! ## Pieces -/

section Pieces

universe u

variable {α : Type u} {isSeparator : α → Bool}

theorem piecesAt_cons_separator {c : α} (cs : List α) (h : isSeparator c = true) :
    piecesAt isSeparator (c :: cs) = [] :: piecesAt isSeparator cs := by
  rw [piecesAt, if_pos h]

theorem piecesAt_cons_other {c : α} {cs piece : List α} {rest : List (List α)}
    (h : isSeparator c = false) (hcs : piecesAt isSeparator cs = piece :: rest) :
    piecesAt isSeparator (c :: cs) = (c :: piece) :: rest := by
  rw [piecesAt, if_neg (by rw [h]; exact Bool.false_ne_true), hcs]

theorem exists_piecesAt_cons (isSeparator : α → Bool) (cs : List α) :
    ∃ piece rest, piecesAt isSeparator cs = piece :: rest :=
  List.exists_cons_of_ne_nil (piecesAt_ne_nil isSeparator cs)

theorem not_separator_of_mem_piecesAt {cs piece : List α} {c : α}
    (hpiece : piece ∈ piecesAt isSeparator cs) (hc : c ∈ piece) : isSeparator c = false := by
  induction cs generalizing piece with
  | nil =>
    rw [piecesAt, List.mem_singleton] at hpiece
    rw [hpiece] at hc
    cases hc
  | cons a cs ih =>
    cases ha : isSeparator a with
    | true =>
      rw [piecesAt_cons_separator cs ha] at hpiece
      cases hpiece with
      | head => cases hc
      | tail _ hpiece => exact ih hpiece hc
    | false =>
      obtain ⟨first, rest, hcs⟩ := exists_piecesAt_cons isSeparator cs
      rw [piecesAt_cons_other ha hcs] at hpiece
      cases hpiece with
      | head =>
        cases hc with
        | head => exact ha
        | tail _ hc => exact ih (by rw [hcs]; exact .head _) hc
      | tail _ hpiece => exact ih (by rw [hcs]; exact .tail _ hpiece) hc

theorem piecesAt_of_no_separator {cs : List α} (h : ∀ c ∈ cs, isSeparator c = false) :
    piecesAt isSeparator cs = [cs] := by
  induction cs with
  | nil => rfl
  | cons a cs ih =>
    have hcs : piecesAt isSeparator cs = [cs] := ih fun c hc => h c (.tail _ hc)
    exact piecesAt_cons_other (h a (.head _)) hcs

theorem piecesAt_append_separator {cs : List α} {s : α} (rest : List α)
    (h : ∀ c ∈ cs, isSeparator c = false) (hs : isSeparator s = true) :
    piecesAt isSeparator (cs ++ s :: rest) = cs :: piecesAt isSeparator rest := by
  induction cs with
  | nil => exact piecesAt_cons_separator rest hs
  | cons a cs ih =>
    have hcs : piecesAt isSeparator (cs ++ s :: rest) = cs :: piecesAt isSeparator rest :=
      ih fun c hc => h c (.tail _ hc)
    exact piecesAt_cons_other (h a (.head _)) hcs

end Pieces

/-! ## Trimming -/

theorem mem_of_mem_trimChars {cs : List Char} {c : Char} (h : c ∈ trimChars cs) : c ∈ cs := by
  unfold trimChars at h
  have hfront := (List.dropWhile_sublist isBlankChar).subset (List.mem_reverse.mp h)
  exact (List.dropWhile_sublist isBlankChar).subset (List.mem_reverse.mp hfront)

theorem trimChars_eq_nil_iff {cs : List Char} :
    trimChars cs = [] ↔ ∀ c ∈ cs, isBlankChar c = true := by
  constructor
  · intro h
    simp only [trimChars, List.reverse_eq_nil_iff, List.dropWhile_eq_nil_iff,
      List.mem_reverse] at h
    intro c hc
    rw [← List.takeWhile_append_dropWhile (p := isBlankChar) (l := cs), List.mem_append] at hc
    cases hc with
    | inl hfront => exact List.mem_takeWhile_imp hfront
    | inr hrest => exact h c hrest
  · intro h
    simp [trimChars, List.dropWhile_eq_nil_iff.mpr h]

theorem trim_eq_empty_iff {s : String} : trim s = "" ↔ isBlank s = true := by
  rw [trim, String.ofList_eq_empty_iff, trimChars_eq_nil_iff, isBlank, List.all_eq_true]

/-! ## Lines -/

theorem newline_notMem_piece {cs piece : List Char} (h : piece ∈ pieces cs) : '\n' ∉ piece := by
  intro hmem
  have hfalse := not_separator_of_mem_piecesAt h hmem
  cases hfalse

theorem pieces_of_notMem {cs : List Char} (h : '\n' ∉ cs) : pieces cs = [cs] := by
  refine piecesAt_of_no_separator fun c hc => ?_
  rw [beq_eq_false_iff_ne]
  intro hnewline
  exact h (hnewline ▸ hc)

theorem pieces_append_newline {cs : List Char} (rest : List Char) (h : '\n' ∉ cs) :
    pieces (cs ++ '\n' :: rest) = cs :: pieces rest := by
  refine piecesAt_append_separator rest (fun c hc => ?_) rfl
  rw [beq_eq_false_iff_ne]
  intro hnewline
  exact h (hnewline ▸ hc)

theorem mem_of_mem_dropReturn {cs : List Char} {c : Char} (h : c ∈ dropReturn cs) : c ∈ cs := by
  unfold dropReturn at h
  split at h
  · exact (List.dropLast_sublist cs).subset h
  · exact h

theorem exists_piece_of_mem_lines {cs line : List Char} (h : line ∈ lines cs) :
    ∃ piece ∈ pieces cs, ∀ c ∈ line, c ∈ piece := by
  unfold lines at h
  rw [List.mem_append] at h
  cases h with
  | inl h =>
    obtain ⟨piece, hpiece, rfl⟩ := List.mem_map.mp h
    exact ⟨piece, (List.dropLast_sublist _).subset hpiece, fun c hc => mem_of_mem_dropReturn hc⟩
  | inr h =>
    have hlast := (List.mem_filter.mp h).1
    rw [Option.mem_toList] at hlast
    exact ⟨line, List.mem_of_getLast? hlast, fun c hc => hc⟩

theorem newline_notMem_bulletLine {s line : String} (h : line ∈ bulletLines s) :
    '\n' ∉ line.toList := by
  unfold bulletLines at h
  obtain ⟨trimmed, hfiltered, rfl⟩ := List.mem_map.mp h
  have htrimmed := (List.mem_filter.mp hfiltered).1
  obtain ⟨cs, hcs, rfl⟩ := List.mem_map.mp htrimmed
  obtain ⟨piece, hpiece, hsub⟩ := exists_piece_of_mem_lines hcs
  rw [String.toList_ofList]
  intro hmem
  exact newline_notMem_piece hpiece (hsub _ (mem_of_mem_trimChars hmem))

end BlockMail.Text
