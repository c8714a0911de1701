import BlockMail.Proofs.Render.Body
import BlockMail.Proofs.Render.Shown

/-! # Markup of blocks

How the values of a block stand in its HTML, for those blocks that have a text form too.  All the
values are copied as they are.
-/

namespace BlockMail.Render

open Html (Node printAll openingTag closingTag newline)

/-! ## Tags -/

theorem openingTag_one (tag name value : String) :
    openingTag tag [(name, value)] = "<" ++ tag ++ (" " ++ name ++ "=\"") ++ value ++ "\">" := by
  simp only [openingTag, Html.printAttributes, String.append_assoc, String.empty_append]
  rfl

theorem openingTag_two (tag name value name' value' : String) :
    openingTag tag [(name, value), (name', value')]
      = "<" ++ tag ++ (" " ++ name ++ "=\"") ++ value ++ ("\" " ++ name' ++ "=\"") ++ value'
        ++ "\">" := by
  have hbetween : "\"" ++ (" " ++ (name' ++ ("=\"" ++ (value' ++ "\">"))))
      = "\" " ++ (name' ++ ("=\"" ++ (value' ++ "\">"))) := by
    rw [← String.append_assoc]
    rfl
  have hend : "\"" ++ ">" = "\">" := rfl
  simp only [openingTag, Html.printAttributes, String.append_assoc, String.empty_append, hend,
    hbetween]

theorem print_element (tag : String) (attributes : List (String × String)) (content : List Node) :
    (Node.element tag attributes content).print
      = openingTag tag attributes ++ printAll content ++ closingTag tag := by
  rw [Node.print]

theorem printAll_framed (tag : String) (attributes : List (String × String))
    (content : List Node) :
    printAll [.element tag attributes content, newline]
      = openingTag tag attributes ++ printAll content ++ (closingTag tag ++ "\n") := by
  rw [Html.printAll_cons, Html.printAll_cons, Html.printAll_nil, String.append_empty,
    print_element, newline, Node.print, String.append_assoc]

theorem print_around (tag : String) (attributes : List (String × String)) (s : String) :
    (Node.element tag attributes [.text s]).print
      = openingTag tag attributes ++ s ++ closingTag tag := by
  rw [print_element, Html.printAll_cons, Html.printAll_nil, String.append_empty, Node.print]

/-- A text in a box of a class. -/
def boxed (className text : String) : String :=
  "<div class=\"" ++ className ++ "\">" ++ text ++ "</div>"

theorem print_classDiv (className text : String) :
    (classDiv className [.text text]).print = boxed className text := by
  rw [classDiv, print_around, openingTag_one]
  rfl

/-! ## Texts -/

/-- The tag a text begins with.  It does not tell how the lines are shown. -/
def textOpening (b : TextBlock) : String :=
  openingTag "div" [("class", "text-block font-" ++ fontClass b.formatting.fontFamily),
    ("style", textStyle b.formatting)]

theorem print_item (item : String) :
    (Node.element "li" [] [.text item]).print = "<li>" ++ item ++ "</li>" :=
  print_around "li" [] item

theorem print_lineDiv (line : String) :
    (lineDiv line).print = "<div>" ++ lineMarkup line ++ "</div>" := by
  unfold lineDiv lineMarkup
  rw [print_element]
  cases Text.isBlank line with
  | true => rfl
  | false =>
    rw [if_neg Bool.false_ne_true, if_neg Bool.false_ne_true, Html.printAll_cons,
      Html.printAll_nil, String.append_empty, Node.print]
    rfl

theorem printAll_textFragment (b : TextBlock) (c : Context) :
    printAll (textFragment b c) = textOpening b ++ printAll (textLines b c) ++ "</div>\n" :=
  printAll_framed ..

/-- Items stand in a list, any other lines in boxes of their own. -/
def textMarkup (b : TextBlock) (items lines : List String) : String :=
  textOpening b
    ++ (if b.formatting.bullets then
        "<ul class=\"bullet-list\">"
          ++ joinWith "" (items.map fun item => "<li>" ++ item ++ "</li>") ++ "</ul>"
      else joinWith "" (lines.map fun line => "<div>" ++ line ++ "</div>"))
    ++ "</div>\n"

theorem printAll_text (b : TextBlock) (c : Context) :
    printAll (textFragment b c)
      = textMarkup b (listItems (textFragment b c)) (lineMarkups (textFragment b c)) := by
  rw [printAll_textFragment, listItems_textFragment, lineMarkups_textFragment]
  unfold textMarkup textLines
  cases b.formatting.bullets with
  | true =>
    rw [if_pos rfl, if_pos rfl, if_pos rfl, Html.printAll_cons, Html.printAll_nil,
      String.append_empty, print_element, printAll_map, funext print_item]
    rfl
  | false =>
    simp only [Bool.false_eq_true, if_false, printAll_map, print_lineDiv, List.map_map,
      Function.comp_def]

/-! ## Headers and calls to action -/

def headerMarkup (b : HeaderBlock) (taglines : List String) : String :=
  "<div class=\"email-header-block\" style=\""
    ++ ("background-color: " ++ (Text.present? b.backgroundColor).getD "#ffffff" ++ ";") ++ "\">"
    ++ ((if b.showLogo then boxed "header-logo" "🏢" else "")
      ++ joinWith "" (taglines.map fun s => "<p class=\"header-tagline\">" ++ s ++ "</p>"))
    ++ "</div>\n"

theorem printAll_headerFragment (b : HeaderBlock) (c : Context) :
    printAll (headerFragment b c) = headerMarkup b (headerTagline? b c).toList := by
  have htagline (s : String) : (Node.element "p" [("class", "header-tagline")] [.text s]).print
      = "<p class=\"header-tagline\">" ++ s ++ "</p>" := print_around ..
  have hclose : closingTag "div" ++ "\n" = "</div>\n" := rfl
  unfold headerFragment headerMarkup
  rw [printAll_framed, openingTag_two, Html.printAll_append, hclose]
  congr 2
  cases b.showLogo <;> cases headerTagline? b c <;> simp [print_classDiv, htagline, joinWith]

def ctaMarkup (variant : CtaVariant) (target label : String) : String :=
  "<div style=\"text-align: center; margin: 30px 0;\">"
    ++ ("<a href=\"" ++ target ++ "\" class=\"" ++ ("cta-button cta-" ++ variant.name) ++ "\">"
      ++ label ++ "</a>")
    ++ "</div>\n"

theorem printAll_ctaFragment (b : CtaBlock) (c : Context) :
    printAll (ctaFragment b c)
      = ctaMarkup (b.variant.getD .primary) ((ctaHref? b c).getD "#") (ctaLabel b c) := by
  unfold ctaFragment ctaMarkup
  rw [printAll_framed, Html.printAll_cons, Html.printAll_nil, String.append_empty, print_around,
    openingTag_two]
  rfl

/-! ## Session details -/

def valueMarkup (color : String) : RowValue → String
  | .text s => s
  | .link url =>
    "<a href=\"" ++ url ++ "\" style=\"" ++ ("color: " ++ color ++ "; text-decoration: underline;")
      ++ "\">" ++ url ++ "</a>"

def rowMarkup (color : String) (row : SessionRow) : String :=
  "<div class=\"session-detail-item\">"
    ++ ("<span class=\"session-detail-label\">" ++ (row.label ++ ":") ++ "</span>")
    ++ ("<span class=\"session-detail-value\">" ++ valueMarkup color row.value ++ "</span>")
    ++ "</div>"

def sessionMarkup (color heading : String) (rows : List SessionRow) : String :=
  "<div class=\"session-details\">"
    ++ ("<h3>" ++ heading ++ "</h3>" ++ joinWith "" (rows.map (rowMarkup color))) ++ "</div>\n"

theorem print_rowValueNode (color : String) (value : RowValue) :
    (rowValueNode color value).print = valueMarkup color value := by
  cases value with
  | text s => rw [rowValueNode, Node.print, valueMarkup]
  | link url =>
    rw [rowValueNode, print_around, openingTag_two]
    rfl

theorem print_rowNode (color : String) (row : SessionRow) :
    (rowNode color row).print = rowMarkup color row := by
  rw [rowNode, classDiv, print_element, Html.printAll_cons, Html.printAll_cons, Html.printAll_nil,
    String.append_empty, print_around, print_element, Html.printAll_cons, Html.printAll_nil,
    String.append_empty, print_rowValueNode, ← String.append_assoc]
  rfl

theorem printAll_sessionFragment (b : SessionDetailsBlock) (c : Context)
    (branding : Option Branding) :
    printAll (sessionFragment b c branding)
      = sessionMarkup (linkColor branding) (sessionHeading b c) (sessionRows b c) := by
  rw [sessionFragment, classDiv, printAll_framed, Html.printAll_cons, print_around, printAll_map,
    funext (print_rowNode _)]
  rfl

/-! ## Footers -/

/-- The picture in a footer, or the first character of the name in its place. -/
def logoMarkup (identity : FooterIdentity) : String :=
  match identity.logoUrl with
  | some logo =>
    "<img src=\"" ++ logo ++ "\" alt=\"" ++ identity.name
      ++ "\" style=\"max-width: 64px; max-height: 64px; margin: 0 auto 12px auto; "
      ++ "display: block;\">"
  | none => boxed "footer-logo" (String.ofList (identity.name.toList.take 1))

theorem print_footerLogo (identity : FooterIdentity) :
    (footerLogo identity).print = logoMarkup identity := by
  unfold footerLogo logoMarkup
  cases identity.logoUrl with
  | none => exact print_classDiv _ _
  | some logo =>
    apply String.toList_injective
    simp [Node.print, openingTag, Html.printAttributes]

/-- Boxes, each for a text of a class, below the logo if there is one. -/
def footerMarkup (logo : Option String) (parts : List (String × String)) : String :=
  "<div class=\"email-footer\">"
    ++ (logo.getD "" ++ joinWith "" (parts.map fun part => boxed part.1 part.2)) ++ "</div>\n"

/-- What a footer shows below its logo, with the classes of the boxes. -/
def footerBoxes (b : FooterBlock) (c : Context) (branding : Option Branding) :
    List (String × String) :=
  let identity := footerIdentity branding c
  (if b.showBusinessName then [("footer-business-name", identity.name)] else [])
    ++ (if b.showContactInfo then
        [("footer-contact", identity.phone), ("footer-contact", identity.email)] else [])
    ++ (footerText? b c).toList.map fun text => ("footer-custom-text", text)

def footerLogo? (b : FooterBlock) (identity : FooterIdentity) : Option String :=
  if b.showLogo then some (logoMarkup identity) else none

theorem sharedParts_eq (b : FooterBlock) (c : Context) (branding : Option Branding) :
    sharedParts b c branding
      = (footerBoxes b c branding).map fun part => (some part.1, part.2) := by
  unfold sharedParts footerBoxes
  cases b.showBusinessName <;> cases b.showContactInfo <;> cases footerText? b c <;> rfl

theorem printAll_footerFragment (b : FooterBlock) (c : Context) (branding : Option Branding) :
    printAll (footerFragment b c branding)
      = footerMarkup (footerLogo? b (footerIdentity branding c)) (footerBoxes b c branding) := by
  have hclose : closingTag "div" ++ "\n" = "</div>\n" := rfl
  have hopen : openingTag "div" [("class", "email-footer")] = "<div class=\"email-footer\">" := rfl
  refine (printAll_framed ..).trans ?_
  unfold footerMarkup footerLogo? footerBoxes
  rw [hopen, hclose, List.append_assoc, List.append_assoc, Html.printAll_append]
  congr 3
  · cases b.showLogo <;> simp [print_footerLogo]
  · cases b.showBusinessName <;> cases b.showContactInfo <;> cases footerText? b c <;>
      simp [print_classDiv, joinWith]

end BlockMail.Render
