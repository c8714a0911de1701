import BlockMail.Render.Message

/-! # The bodies of a message

The page is printed around the fragments of the blocks: what stands before and behind
them does not depend on them.  So the HTML body is one fragment after the other, and
the text body one text form after the other, in the same arrangement of the blocks.
-/

namespace BlockMail.Render

open Html (Node printAll printAll_append)

/-! ## What stands around the blocks -/

/-- The pieces around `ns` in `around ns` are printed alike whatever `ns` is. -/
def Encloses (around : List Node → List Node) : Prop :=
  ∃ opening closing, ∀ ns, printAll (around ns) = opening ++ printAll ns ++ closing

namespace Encloses

variable {around : List Node → List Node}

theorem self : Encloses fun ns => ns := by
  refine ⟨"", "", fun ns => ?_⟩
  rw [String.empty_append, String.append_empty]

theorem after (h : Encloses around) (ms : List Node) : Encloses fun ns => ms ++ around ns := by
  obtain ⟨opening, closing, h⟩ := h
  refine ⟨printAll ms ++ opening, closing, fun ns => ?_⟩
  rw [printAll_append, h, String.append_assoc, String.append_assoc, String.append_assoc]

theorem before (h : Encloses around) (ms : List Node) : Encloses fun ns => around ns ++ ms := by
  obtain ⟨opening, closing, h⟩ := h
  refine ⟨opening, closing ++ printAll ms, fun ns => ?_⟩
  rw [printAll_append, h, String.append_assoc]

theorem element (h : Encloses around) (tag : String) (attributes : List (String × String)) :
    Encloses fun ns => [.element tag attributes (around ns)] := by
  obtain ⟨opening, closing, h⟩ := h
  refine ⟨Html.openingTag tag attributes ++ opening, closing ++ Html.closingTag tag,
    fun ns => ?_⟩
  rw [Html.printAll_cons, Html.printAll_nil, String.append_empty, Node.print, h]
  simp only [String.append_assoc]

end Encloses

theorem body_encloses (leading : List Node) (o : Options) :
    Encloses fun ns => [.element "body" []
      [ Html.newline,
        classDiv "email-container" (Html.newline :: (if o.preview then previewBar else [])
          ++ [classDiv "email-body" (Html.newline :: leading ++ ns), Html.newline]),
        Html.newline, unsubscribeLine o, Html.newline ]] := by
  have hblocks := Encloses.self.after (Html.newline :: leading)
  have harea := (hblocks.element "div" [("class", "email-body")]).before [Html.newline]
  have hbar := harea.after (Html.newline :: if o.preview then previewBar else [])
  have hcontainer := (hbar.element "div" [("class", "email-container")]).before
    [Html.newline, unsubscribeLine o, Html.newline]
  exact (hcontainer.after [Html.newline]).element "body" []

theorem pageBody_encloses (preheader : Option String) (o : Options) :
    Encloses fun ns => [pageBody preheader ns o] := by
  cases preheader with
  | some preheader => exact body_encloses (preheaderNodes preheader) o
  | none => exact body_encloses [] o

theorem page_encloses (title : String) (preheader : Option String) (o : Options) :
    Encloses fun ns => page title preheader ns o := by
  have hbody := ((pageBody_encloses preheader o).before [Html.newline]).after
    [Html.newline, pageHead title, Html.newline]
  exact ((hbody.element "html" [("lang", "en")]).before [Html.newline]).after
    [.doctype, Html.newline]

/-! ## The arrangement of the blocks -/

theorem order_trans (a b c : Block) (hab : decide (a.order ≤ b.order) = true)
    (hbc : decide (b.order ≤ c.order) = true) : decide (a.order ≤ c.order) = true := by
  rw [decide_eq_true_eq] at hab hbc ⊢
  exact Int64.le_trans hab hbc

theorem order_total (a b : Block) :
    (decide (a.order ≤ b.order) || decide (b.order ≤ a.order)) = true := by
  rw [Bool.or_eq_true, decide_eq_true_eq, decide_eq_true_eq]
  exact Int64.le_total a.order b.order

theorem inRenderOrder_perm (blocks : List Block) : (inRenderOrder blocks).Perm blocks :=
  List.mergeSort_perm blocks _

theorem inRenderOrder_ascending (blocks : List Block) :
    (inRenderOrder blocks).Pairwise fun a b => a.order ≤ b.order :=
  (List.pairwise_mergeSort order_trans order_total blocks).imp of_decide_eq_true

/-! ## One block after the other -/

theorem joinWith_cons_cons (separator s t : String) (rest : List String) :
    joinWith separator (s :: t :: rest) = s ++ separator ++ joinWith separator (t :: rest) := rfl

theorem joinWith_empty_cons (s : String) (rest : List String) :
    joinWith "" (s :: rest) = s ++ joinWith "" rest := by
  cases rest with
  | nil =>
    show s = s ++ ""
    rw [String.append_empty]
  | cons t rest => rw [joinWith_cons_cons, String.append_empty]

theorem joinLines_cons (l : String) (ls : List String) :
    joinLines (l :: ls) = l ++ joinWith "" (ls.map ("\n" ++ ·)) := by
  induction ls generalizing l with
  | nil =>
    show l = l ++ ""
    rw [String.append_empty]
  | cons l' ls ih =>
    have hrest : joinWith "\n" (l' :: ls) = l' ++ joinWith "" (ls.map ("\n" ++ ·)) := ih l'
    rw [joinLines, joinWith_cons_cons, hrest, List.map_cons, joinWith_empty_cons,
      String.append_assoc, String.append_assoc]

theorem joinWith_empty_append (ss ts : List String) :
    joinWith "" (ss ++ ts) = joinWith "" ss ++ joinWith "" ts := by
  induction ss with
  | nil =>
    show joinWith "" ts = "" ++ joinWith "" ts
    rw [String.empty_append]
  | cons s ss ih =>
    rw [List.cons_append, joinWith_empty_cons, ih, joinWith_empty_cons, String.append_assoc]

theorem printAll_map {α : Type} (f : α → Node) (xs : List α) :
    printAll (xs.map f) = joinWith "" (xs.map fun x => (f x).print) := by
  induction xs with
  | nil => exact Html.printAll_nil
  | cons x xs ih => rw [List.map_cons, Html.printAll_cons, ih, List.map_cons, joinWith_empty_cons]

theorem printAll_fragments (blocks : List Block) (c : Context) (branding : Option Branding) :
    printAll (blocks.flatMap fun b => fragment b.kind c branding)
      = joinWith "" (blocks.map fun b => blockHtml b c branding) := by
  induction blocks with
  | nil => rfl
  | cons b rest ih =>
    rw [List.flatMap_cons, printAll_append, ih, List.map_cons, joinWith_empty_cons]
    rfl

theorem printAll_blockArea (blocks : List Block) (c : Context) (branding : Option Branding) :
    printAll (blockArea blocks c branding)
      = joinWith "" ((inRenderOrder blocks).map fun b => blockHtml b c branding) :=
  printAll_fragments (inRenderOrder blocks) c branding

/-- The text forms that a message shows, without the white space around them. -/
def textParts (blocks : List Block) (c : Context) (branding : Option Branding) : List String :=
  ((blocks.filterMap fun b => textForm? b.kind c branding).map Text.trim).filter (· != "")

theorem plainText_eq (blocks : List Block) (c : Context) (branding : Option Branding) :
    plainText blocks c branding
      = joinWith "\n\n" (textParts (inRenderOrder blocks) c branding) := by
  unfold plainText textParts
  rw [List.map_filterMap]

end BlockMail.Render
