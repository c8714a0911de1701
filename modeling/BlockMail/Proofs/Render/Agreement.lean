import BlockMail.Proofs.Render.Markup
import BlockMail.Proofs.Text.Lines

/-! # HTML and plain text agree

Each block shows the same values in both formats, in the same order.  What the HTML
shows is read off the fragment by tag and class, and stands in the printed markup in the
same places; what the text shows is read off its lines.
Both bodies of a document are made of the same arrangement of its blocks.
-/

namespace BlockMail.Render

open Html (Node links printAll)
open Placeholder (resolve)

/-! ## Reading a text form -/

/-- The stretches of a text form between line feeds. -/
def formLines (form : String) : List String := (Text.pieces form.toList).map String.ofList

/-- What follows the dash of an item. -/
def item? (line : String) : Option String :=
  match line.toList with
  | '-' :: ' ' :: rest => some (String.ofList rest)
  | _ => none

/-- A line without one carriage return at its end. -/
def withoutReturn (line : String) : String := String.ofList (Text.dropReturn line.toList)

theorem item?_dash (s : String) : item? ("- " ++ s) = some s := by
  have hchars : ("- " ++ s).toList = '-' :: ' ' :: s.toList := String.toList_append
  unfold item?
  rw [hchars]
  exact congrArg some String.ofList_toList

theorem formLines_of_notMem {s : String} (h : '\n' ∉ s.toList) : formLines s = [s] := by
  unfold formLines
  rw [Text.pieces_of_notMem h, List.map_singleton, String.ofList_toList]

theorem formLines_joinLines {l : String} {ls : List String}
    (h : ∀ line ∈ l :: ls, '\n' ∉ line.toList) : formLines (joinLines (l :: ls)) = l :: ls := by
  induction ls generalizing l with
  | nil => exact formLines_of_notMem (h l (.head _))
  | cons l' ls ih =>
    have hl : '\n' ∉ l.toList := h l (.head _)
    have hrest := ih fun line hline => h line (.tail _ hline)
    have hchars : (joinLines (l :: l' :: ls)).toList
        = l.toList ++ '\n' :: (joinLines (l' :: ls)).toList := by
      unfold joinLines
      rw [joinWith_cons_cons, String.toList_append, String.toList_append, List.append_assoc]
      rfl
    unfold formLines at hrest ⊢
    rw [hchars, Text.pieces_append_newline _ hl, List.map_cons, hrest, String.ofList_toList]

theorem newline_notMem_dashed {items : List String} (h : ∀ item ∈ items, '\n' ∉ item.toList) :
    ∀ line ∈ items.map ("- " ++ ·), '\n' ∉ line.toList := by
  intro line hline
  obtain ⟨s, hs, rfl⟩ := List.mem_map.mp hline
  rw [String.toList_append, List.mem_append]
  intro hmem
  cases hmem with
  | inl hdash => exact absurd hdash (by decide)
  | inr hs' => exact h s hs hs'

theorem items_formLines {items : List String} (h : ∀ item ∈ items, '\n' ∉ item.toList) :
    (formLines (joinLines (items.map ("- " ++ ·)))).filterMap item? = items := by
  cases items with
  | nil =>
    have hempty : formLines (joinLines []) = [""] := formLines_of_notMem List.not_mem_nil
    rw [List.map_nil, hempty]
    rfl
  | cons item rest =>
    have hdashed := newline_notMem_dashed h
    rw [List.map_cons] at hdashed ⊢
    rw [formLines_joinLines hdashed, ← List.map_cons, List.filterMap_map]
    have hitems : item? ∘ ("- " ++ ·) = some := funext item?_dash
    rw [hitems, List.filterMap_some]

theorem plainLines_eq (s : String) : Text.plainLines s = (formLines s).map withoutReturn := by
  unfold Text.plainLines formLines
  rw [List.map_map, List.map_map]
  refine List.map_congr_left fun piece _ => ?_
  show _ = withoutReturn (String.ofList piece)
  unfold withoutReturn
  rw [String.toList_ofList]
  rfl

/-! ## What the formats of a block have in common

Each structure relates the nodes `ns` of a block to its text form.
-/

/-- The items are what follows the dashes of the text form, or else the lines are those of
    the text form. -/
structure TextAgrees (b : TextBlock) (c : Context) (ns : List Node) (form : Option String) :
    Prop where
  shown : ∃ s, form = some s ∧
    if b.formatting.bullets then
      listItems ns = Text.bulletLines (resolve b.content c)
        ∧ (formLines s).filterMap item? = listItems ns
        ∧ s = joinLines ((listItems ns).map ("- " ++ ·))
        ∧ lineMarkups ns = []
    else
      s = resolve b.content c
        ∧ lineMarkups ns = (formLines s).map (fun line => lineMarkup (withoutReturn line))
        ∧ listItems ns = []
  markup : printAll ns = textMarkup b (listItems ns) (lineMarkups ns)

/-- The lines of a header's title. -/
def titleLines (b : HeaderBlock) (c : Context) : List String :=
  ((headerTitle? b c).map underlined).getD []

/-- The title is in the text form alone, the tagline in both formats. -/
structure HeaderAgrees (b : HeaderBlock) (c : Context) (ns : List Node) (form : Option String) :
    Prop where
  shown : taglines ns = (headerTagline? b c).toList
  markup : printAll ns = headerMarkup b (taglines ns)
  form_eq : form = if titleLines b c ++ taglines ns = [] then none
    else some (joinLines (titleLines b c ++ taglines ns))

/-- There is one link.  The text form has its label, and its target unless there is none:
    then the link leads to `#`. -/
structure CtaAgrees (b : CtaBlock) (c : Context) (ns : List Node) (form : Option String) :
    Prop where
  shown : ∃ target, links ns = [(some target, ctaLabel b c)] ∧
    printAll ns = ctaMarkup (b.variant.getD .primary) target (ctaLabel b c) ∧
    (ctaHref? b c = some target ∧ form = some (ctaLabel b c ++ ": " ++ target)
      ∨ ctaHref? b c = none ∧ target = "#" ∧ form = some (ctaLabel b c))
    ∧ (target = "#" ∧ form = some (ctaLabel b c)
      ↔ Text.present? b.link = none ∧ Text.present? b.url = none)

/-- Heading and rows are the lines of the text form.  An address is linked to itself. -/
structure SessionAgrees (b : SessionDetailsBlock) (c : Context) (branding : Option Branding)
    (ns : List Node) (form : Option String) : Prop where
  details_eq : details ns = ("h3", sessionHeading b c)
    :: (sessionRows b c).map fun row => ("div", row.label ++ ":" ++ row.value.shown)
  rows_eq : shownRows ns = (sessionRows b c).map SessionRow.shown
  markup : printAll ns
    = sessionMarkup (linkColor branding) (sessionHeading b c) (sessionRows b c)
  form_eq : form = some (joinLines (sessionHeading b c
    :: (sessionRows b c).map fun row => row.label ++ ": " ++ row.value.shown))

/-- What stands before each part of a footer in its text form. -/
def partLabels (b : FooterBlock) (c : Context) : List String :=
  (if b.showBusinessName then [""] else [])
    ++ (if b.showContactInfo then ["Phone: ", "Email: "] else [])
    ++ (footerText? b c).toList.map fun _ => ""

/-- The parts of a footer are the lines of its text form, each behind its label. -/
structure FooterAgrees (b : FooterBlock) (c : Context) (branding : Option Branding)
    (ns : List Node) (form : Option String) : Prop where
  parts_eq : footerParts ns = sharedParts b c branding
  length_eq : (footerParts ns).length = (partLabels b c).length
  markup : ∃ parts : List (String × String),
    footerParts ns = parts.map (fun part => (some part.1, part.2))
      ∧ printAll ns = footerMarkup (footerLogo? b (footerIdentity branding c)) parts
  form_eq : form = some (joinLines
    ("---" :: List.zipWith (· ++ ·) (partLabels b c) ((footerParts ns).map Prod.snd)))

/-- The two formats of a block agree. -/
def FormatsAgree (kind : BlockKind) (c : Context) (branding : Option Branding)
    (ns : List Node) (form : Option String) : Prop :=
  match kind with
  | .text b => TextAgrees b c ns form
  | .header b => HeaderAgrees b c ns form
  | .cta b => CtaAgrees b c ns form
  | .sessionDetails b => SessionAgrees b c branding ns form
  | .footer b => FooterAgrees b c branding ns form
  | .image _ => form = none
  | .divider _ => form = none
  | .socialLinks _ => form = none
  | .rawHtml _ => form = none

theorem text_agrees (b : TextBlock) (c : Context) :
    TextAgrees b c (textFragment b c) (some (textForm b c)) := by
  refine ⟨⟨_, rfl, ?_⟩, printAll_text b c⟩
  have hitems := listItems_textFragment b c
  have hlines := lineMarkups_textFragment b c
  unfold textForm
  cases hbullets : b.formatting.bullets with
  | true =>
    rw [hbullets, if_pos rfl] at hitems hlines
    rw [if_pos rfl, if_pos rfl, hitems, hlines]
    refine ⟨rfl, ?_, rfl, rfl⟩
    exact items_formLines fun _ hitem => Text.newline_notMem_bulletLine hitem
  | false =>
    rw [hbullets, if_neg Bool.false_ne_true] at hitems hlines
    rw [if_neg Bool.false_ne_true, if_neg Bool.false_ne_true, hitems, hlines, plainLines_eq,
      List.map_map]
    exact ⟨rfl, rfl, rfl⟩

theorem header_agrees (b : HeaderBlock) (c : Context) :
    HeaderAgrees b c (headerFragment b c) (headerForm? b c) := by
  have htaglines := taglines_headerFragment b c
  have hmarkup := printAll_headerFragment b c
  rw [← htaglines] at hmarkup
  refine ⟨htaglines, hmarkup, ?_⟩
  rw [htaglines]
  unfold headerForm? headerLines titleLines
  cases headerTitle? b c <;> cases headerTagline? b c <;> rfl

theorem ctaForm_ne_label (label target : String) : label ++ ": " ++ target ≠ label := by
  intro h
  have hlength := congrArg String.length h
  rw [String.length_append, String.length_append] at hlength
  have hcolon : (": " : String).length = 2 := rfl
  omega

theorem ctaHref?_eq_none_iff (b : CtaBlock) (c : Context) :
    ctaHref? b c = none ↔ Text.present? b.link = none ∧ Text.present? b.url = none := by
  unfold ctaHref?
  rw [Option.map_eq_none_iff, Option.or_eq_none_iff]

theorem cta_agrees (b : CtaBlock) (c : Context) :
    CtaAgrees b c (ctaFragment b c) (some (ctaForm b c)) := by
  refine ⟨_, links_ctaFragment b c, printAll_ctaFragment b c, ?_⟩
  rw [← ctaHref?_eq_none_iff b c]
  unfold ctaForm
  cases ctaHref? b c with
  | none => exact ⟨.inr ⟨rfl, rfl, rfl⟩, fun _ => rfl, fun _ => ⟨rfl, rfl⟩⟩
  | some target =>
    refine ⟨.inl ⟨rfl, rfl⟩, fun h => ?_, fun h => ?_⟩
    · exact absurd (Option.some.inj h.2) (ctaForm_ne_label _ _)
    · cases h

theorem session_agrees (b : SessionDetailsBlock) (c : Context) (branding : Option Branding) :
    SessionAgrees b c branding (sessionFragment b c branding) (some (sessionForm b c)) :=
  ⟨details_sessionFragment b c branding, shownRows_sessionFragment b c branding,
    printAll_sessionFragment b c branding, rfl⟩

theorem footer_agrees (b : FooterBlock) (c : Context) (branding : Option Branding) :
    FooterAgrees b c branding (footerFragment b c branding) (some (footerForm b c branding)) := by
  have hparts := footerParts_footerFragment b c branding
  refine ⟨hparts, ?_, ⟨_, hparts.trans (sharedParts_eq b c branding),
    printAll_footerFragment b c branding⟩, ?_⟩
  · rw [hparts]
    unfold sharedParts partLabels
    cases b.showBusinessName <;> cases b.showContactInfo <;> cases footerText? b c <;> rfl
  · rw [hparts]
    unfold footerForm sharedParts partLabels
    cases b.showBusinessName <;> cases b.showContactInfo <;> cases footerText? b c <;>
      simp

theorem block_agrees (kind : BlockKind) (c : Context) (branding : Option Branding) :
    FormatsAgree kind c branding (fragment kind c branding) (textForm? kind c branding) := by
  cases kind with
  | text b => exact text_agrees b c
  | header b => exact header_agrees b c
  | cta b => exact cta_agrees b c
  | sessionDetails b => exact session_agrees b c branding
  | footer b => exact footer_agrees b c branding
  | image b => exact rfl
  | divider b => exact rfl
  | socialLinks b => exact rfl
  | rawHtml b => exact rfl

/-! ## What the bodies of a document have in common -/

/-- Both bodies of a document are made of its blocks in one arrangement: the HTML of the
    fragments, between `opening` and `closing`, and the text of the text forms. -/
structure BodiesAgree (opening closing : String) (d : Document) (o : Options) : Prop where
  perm : (inRenderOrder d.blocks).Perm d.blocks
  ascending : (inRenderOrder d.blocks).Pairwise fun a b => a.order ≤ b.order
  html_eq : (render d o).html = opening
    ++ joinWith "" ((inRenderOrder d.blocks).map fun b => blockHtml b d.data d.branding)
    ++ closing
  text_eq : (render d o).text
    = joinWith "\n\n" (textParts (inRenderOrder d.blocks) d.data d.branding)

theorem exists_bodies_agree (subject : String) (preheader : Option String) (data : Context)
    (o : Options) : ∃ opening closing, ∀ (blocks : List Block) (branding : Option Branding),
      BodiesAgree opening closing { subject, preheader, blocks, data, branding } o := by
  obtain ⟨opening, closing, hpage⟩ :=
    page_encloses (resolve subject data) (Placeholder.resolve? preheader data) o
  refine ⟨opening, closing, fun blocks branding =>
    ⟨inRenderOrder_perm blocks, inRenderOrder_ascending blocks, ?_, plainText_eq _ _ _⟩⟩
  rw [← printAll_blockArea]
  exact hpage (blockArea blocks data branding)

end BlockMail.Render
