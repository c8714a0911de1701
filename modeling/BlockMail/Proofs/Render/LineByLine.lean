import BlockMail.Proofs.Render.Agreement
import BlockMail.Proofs.Text.Inked

/-! # Texts line by line

A text is shown in paragraphs, one for each of its lines, or in bullets, one for each line with
something on it.  The two ways cut the text by different rules, and still the bullets are what
stands on the paragraphs.  So bullets neither drop nor merge such a line, in either format.
-/

namespace BlockMail.Render

open Html (printAll)
open Placeholder (resolve)

/-! ## The lines of a text -/

/-- The lines `ls` are what stands between the line feeds of `s`. -/
structure LinesOf (s : String) (ls : List String) : Prop where
  joined : joinLines ls = s
  unbroken : ∀ line ∈ ls, '\n' ∉ line.toList
  length_eq : ls.length = s.toList.count '\n' + 1

theorem joinLines_pieces (cs : List Char) :
    joinLines ((Text.pieces cs).map String.ofList) = String.ofList cs := by
  induction cs with
  | nil => rfl
  | cons c cs ih =>
    obtain ⟨piece, rest, hcs⟩ : ∃ piece rest, Text.pieces cs = piece :: rest :=
      Text.exists_piecesAt_cons _ cs
    rw [hcs, List.map_cons] at ih
    cases hc : c == '\n' with
    | true =>
      have hpieces : Text.pieces (c :: cs) = [] :: Text.pieces cs :=
        Text.piecesAt_cons_separator cs hc
      rw [hpieces, hcs, List.map_cons, List.map_cons, joinLines, joinWith_cons_cons, ← joinLines,
        ih, beq_iff_eq.mp hc, String.ofList_nil, String.empty_append, String.ofList_cons]
      rfl
    | false =>
      have hpieces : Text.pieces (c :: cs) = (c :: piece) :: rest :=
        Text.piecesAt_cons_other hc hcs
      rw [joinLines_cons] at ih
      rw [hpieces, List.map_cons, joinLines_cons, String.ofList_cons, String.ofList_cons,
        String.append_assoc, ih]

theorem linesOf_formLines (s : String) : LinesOf s (formLines s) where
  joined := by
    rw [formLines, joinLines_pieces, String.ofList_toList]
  unbroken := by
    intro line hline
    obtain ⟨piece, hpiece, rfl⟩ := List.mem_map.mp hline
    rw [String.toList_ofList]
    exact Text.newline_notMem_piece hpiece
  length_eq := by
    rw [formLines, List.length_map, Text.length_pieces]

theorem linesOf_iff {s : String} {ls : List String} : LinesOf s ls ↔ ls = formLines s := by
  constructor
  · intro h
    cases ls with
    | nil => exact absurd h.length_eq (Nat.succ_ne_zero _).symm
    | cons l ls => rw [← h.joined, formLines_joinLines h.unbroken]
  · rintro rfl
    exact linesOf_formLines s

/-! ## What stands on lines -/

/-- The lines which are not blank, without the white space around them. -/
def inkedLines (ls : List String) : List String :=
  (ls.filter fun line => !Text.isBlank line).map Text.trim

theorem trim_ofList (cs : List Char) :
    Text.trim (String.ofList cs) = String.ofList (Text.trimChars cs) := by
  rw [Text.trim, String.toList_ofList]

theorem isBlank_ofList (cs : List Char) :
    Text.isBlank (String.ofList cs) = (Text.trimChars cs).isEmpty := by
  rw [Bool.eq_iff_iff, ← Text.trim_eq_empty_iff, trim_ofList, String.ofList_eq_empty_iff,
    List.isEmpty_iff]

theorem inkedLines_map_ofList (ls : List (List Char)) :
    inkedLines (ls.map String.ofList) = (Text.inked ls).map String.ofList := by
  simp only [inkedLines, Text.inked, List.filter_map, List.map_map, Function.comp_def,
    isBlank_ofList, trim_ofList]

theorem bulletLines_eq (s : String) : Text.bulletLines s = inkedLines (formLines s) := by
  rw [formLines, inkedLines_map_ofList, ← Text.inked_lines]
  rfl

theorem trim_withoutReturn (line : String) : Text.trim (withoutReturn line) = Text.trim line := by
  rw [withoutReturn, trim_ofList, Text.trimChars_dropReturn, Text.trim]

theorem isBlank_withoutReturn (line : String) :
    Text.isBlank (withoutReturn line) = Text.isBlank line := by
  rw [Bool.eq_iff_iff, ← Text.trim_eq_empty_iff, trim_withoutReturn, Text.trim_eq_empty_iff]

theorem inkedLines_map_withoutReturn (ls : List String) :
    inkedLines (ls.map withoutReturn) = inkedLines ls := by
  simp only [inkedLines, List.filter_map, List.map_map, Function.comp_def, isBlank_withoutReturn,
    trim_withoutReturn]

theorem inkedLines_formLines_trim (s : String) :
    inkedLines (formLines (Text.trim s)) = inkedLines (formLines s) := by
  simp only [formLines, inkedLines_map_ofList, Text.trim, String.toList_ofList,
    Text.inked_pieces_trimChars]

/-! ## Both ways to show a text -/

/-- The block with its bullets switched on or off. -/
def withBullets (on : Bool) (b : TextBlock) : TextBlock :=
  { b with formatting := { b.formatting with bullets := on } }

/-- What a paragraph shows of a line: a break if nothing is on it. -/
def paragraph (line : String) : String :=
  if Text.isBlank line then "<br>" else withoutReturn line

theorem lineMarkup_withoutReturn (line : String) :
    lineMarkup (withoutReturn line) = paragraph line := by
  unfold lineMarkup paragraph
  rw [isBlank_withoutReturn]

/-- The markup of a text in paragraphs, between the tags of the block. -/
def paragraphs (ls : List String) : String :=
  joinWith "" (ls.map fun line => "<div>" ++ paragraph line ++ "</div>")

/-- The markup of a text in bullets. -/
def bullets (items : List String) : String :=
  "<ul class=\"bullet-list\">" ++ joinWith "" (items.map fun item => "<li>" ++ item ++ "</li>")
    ++ "</ul>"

theorem printAll_paragraphs (b : TextBlock) (c : Context) :
    printAll (textLines (withBullets false b) c)
      = paragraphs (formLines (resolve b.content c)) := by
  simp only [textLines, withBullets, Bool.false_eq_true, if_false, plainLines_eq, List.map_map,
    printAll_map, Function.comp_apply, print_lineDiv, lineMarkup_withoutReturn, paragraphs]

theorem printAll_bullets (b : TextBlock) (c : Context) :
    printAll (textLines (withBullets true b) c)
      = bullets (inkedLines (formLines (resolve b.content c))) := by
  simp only [textLines, withBullets, if_true, bulletLines_eq, Html.printAll_cons, Html.printAll_nil,
    String.append_empty]
  rw [print_element, printAll_map, funext print_item]
  rfl

/-! ## Items in plain text -/

/-- A list in plain text: a line for each item, behind a dash. -/
def dashed (items : List String) : String := joinLines (items.map ("- " ++ ·))

theorem textForm_bullets (b : TextBlock) (c : Context) :
    textForm (withBullets true b) c = dashed (inkedLines (formLines (resolve b.content c))) := by
  simp only [textForm, withBullets, if_true, bulletLines_eq, dashed]

theorem dashed_cons_eq (item : String) (items : List String) :
    ∃ back, (dashed (item :: items)).toList = '-' :: back := by
  rw [dashed, List.map_cons, joinLines_cons, String.toList_append, String.toList_append]
  exact ⟨_, rfl⟩

theorem dashed_concat_eq (items : List String) (item : String) :
    ∃ front, (dashed (items ++ [item])).toList = front ++ item.toList := by
  rw [dashed, List.map_append, List.map_singleton]
  cases items with
  | nil => exact ⟨("- " : String).toList, String.toList_append⟩
  | cons first items =>
    rw [List.map_cons, List.cons_append, joinLines_cons, List.map_append, joinWith_empty_append]
    simp only [List.map_singleton, joinWith, String.toList_append, ← List.append_assoc]
    exact ⟨_, rfl⟩

theorem exists_last_of_mem_inkedLines {ls : List String} {item : String}
    (h : item ∈ inkedLines ls) :
    ∃ front last, item.toList = front ++ [last] ∧ Text.isBlankChar last = false := by
  obtain ⟨line, hfiltered, rfl⟩ := List.mem_map.mp h
  have hblank : ¬ Text.isBlank line = true := by
    simpa using (List.mem_filter.mp hfiltered).2
  rw [Text.trim, String.toList_ofList]
  refine Text.exists_trimChars_eq_append fun hnil => hblank ?_
  rw [← Text.trim_eq_empty_iff, Text.trim, hnil, String.ofList_nil]

theorem trim_dashed (ls : List String) :
    Text.trim (dashed (inkedLines ls)) = dashed (inkedLines ls) := by
  obtain hnone | ⟨items, item, hitems⟩ := List.eq_nil_or_concat' (inkedLines ls)
  · rw [hnone]
    rfl
  · have hitem : item ∈ inkedLines ls := by simp [hitems]
    obtain ⟨front, last, hlast, hnonblank⟩ := exists_last_of_mem_inkedLines hitem
    obtain ⟨before, hbefore⟩ := dashed_concat_eq items item
    rw [hlast, ← List.append_assoc, ← hitems] at hbefore
    obtain ⟨first, rest, hcons⟩ := List.exists_cons_of_ne_nil (List.ne_nil_of_mem hitem)
    obtain ⟨back, hback⟩ := dashed_cons_eq first rest
    rw [← hcons] at hback
    rw [Text.trim, Text.trimChars_eq_self hback hbefore rfl hnonblank, String.ofList_toList]

theorem newline_notMem_inkedLines {s item : String} (h : item ∈ inkedLines (formLines s)) :
    '\n' ∉ item.toList := by
  rw [← bulletLines_eq] at h
  exact Text.newline_notMem_bulletLine h

theorem formLines_dashed {items : List String} (h : ∀ item ∈ items, '\n' ∉ item.toList) :
    items = [] ∧ dashed items = "" ∨ formLines (dashed items) = items.map ("- " ++ ·) := by
  cases items with
  | nil => exact .inl ⟨rfl, rfl⟩
  | cons item items =>
    have hdashed := newline_notMem_dashed h
    rw [List.map_cons] at hdashed
    exact .inr (formLines_joinLines hdashed)

/-! ## Line by line -/

/-- What the block shows, without bullets and with them, when `ls` are the lines of its text. -/
structure LineByLine (b : TextBlock) (c : Context) (ls : List String) : Prop where
  html_eq : ∃ opening,
    printAll (textFragment (withBullets false b) c) = opening ++ paragraphs ls ++ "</div>\n"
      ∧ printAll (textFragment (withBullets true b) c)
          = opening ++ bullets (inkedLines ls) ++ "</div>\n"
  lines_shown : lineMarkups (textFragment (withBullets false b) c) = ls.map paragraph
    ∧ listItems (textFragment (withBullets false b) c) = []
  items_shown : listItems (textFragment (withBullets true b) c) = inkedLines ls
    ∧ lineMarkups (textFragment (withBullets true b) c) = []
  return_ignored : inkedLines (ls.map withoutReturn) = inkedLines ls
  text_lines : LinesOf (textForm (withBullets false b) c) ls
  text_items : inkedLines ls = [] ∧ textForm (withBullets true b) c = ""
    ∨ LinesOf (textForm (withBullets true b) c) ((inkedLines ls).map ("- " ++ ·))
  message_lines : inkedLines (formLines (Text.trim (textForm (withBullets false b) c)))
    = inkedLines ls
  message_items : Text.trim (textForm (withBullets true b) c) = textForm (withBullets true b) c

theorem textOpening_withBullets (on : Bool) (b : TextBlock) :
    textOpening (withBullets on b) = textOpening b := rfl

theorem lineByLine (b : TextBlock) (c : Context) :
    LineByLine b c (formLines (resolve b.content c)) where
  html_eq := by
    refine ⟨textOpening b, ?_, ?_⟩
    · rw [printAll_textFragment, textOpening_withBullets, printAll_paragraphs]
    · rw [printAll_textFragment, textOpening_withBullets, printAll_bullets]
  lines_shown := by
    have hlines : lineMarkup ∘ withoutReturn = paragraph := funext lineMarkup_withoutReturn
    rw [lineMarkups_textFragment, listItems_textFragment, plainLines_eq, List.map_map, hlines]
    exact ⟨rfl, rfl⟩
  items_shown := by
    rw [lineMarkups_textFragment, listItems_textFragment]
    exact ⟨bulletLines_eq _, rfl⟩
  return_ignored := inkedLines_map_withoutReturn _
  text_lines := linesOf_formLines _
  text_items := by
    rw [textForm_bullets, linesOf_iff]
    obtain hnone | hsome := formLines_dashed fun item hitem =>
      newline_notMem_inkedLines (s := resolve b.content c) hitem
    · exact .inl hnone
    · exact .inr hsome.symm
  message_lines := inkedLines_formLines_trim _
  message_items := by
    rw [textForm_bullets, trim_dashed]

end BlockMail.Render
