import BlockMail.Proofs.Html.Reading
import BlockMail.Render.Html

/-! # What fragments show

The values that a reader finds in the fragments of texts, headers, calls to action,
session details and footers.  They are looked up by tag and class, so nothing here
depends on how the elements are nested or styled.
-/

namespace BlockMail.Render

open Html (Node Element select links select_append select_element select_voidElement select_frame
  map_select_map select_map_nil)
open Placeholder (resolve)

/-! ## Texts -/

/-- The items of lists. -/
def listItems (ns : List Node) : List String :=
  (select (Element.hasTag "li") ns).map Element.shown

/-- A line of a paragraph is an element `div` without attributes. -/
def isLine (e : Element) : Bool := e.hasTag "div" && e.attributes.isEmpty

@[simp] theorem isLine_mk (tag : String) (attributes : List (String × String))
    (content : List Node) :
    isLine ⟨tag, attributes, content⟩ = (tag == "div" && attributes.isEmpty) :=
  rfl

/-- The markup of every line of a paragraph. -/
def lineMarkups (ns : List Node) : List String := (select isLine ns).map Element.markup

/-- The markup of a line; a break stands for a blank one. -/
def lineMarkup (line : String) : String := if Text.isBlank line then "<br>" else line

theorem item_bullet (line : String) :
    (select (Element.hasTag "li") [.element "li" [] [.text line]]).map Element.shown = [line] := by
  simp [select_element]

theorem no_item_lineDiv (line : String) : select (Element.hasTag "li") [lineDiv line] = [] := by
  unfold lineDiv
  cases Text.isBlank line <;> simp [select_element, select_voidElement]

theorem no_line_bullet (line : String) : select isLine [.element "li" [] [.text line]] = [] := by
  simp [select_element]

theorem line_lineDiv (line : String) :
    (select isLine [lineDiv line]).map Element.markup = [lineMarkup line] := by
  unfold lineDiv lineMarkup
  cases Text.isBlank line with
  | true =>
    have hbreak : (Node.voidElement "br" []).print = "<br>" := by rw [Node.print]; rfl
    simp [select_element, select_voidElement, hbreak]
  | false => simp [select_element, Node.print]

theorem listItems_textFragment (b : TextBlock) (c : Context) :
    listItems (textFragment b c)
      = if b.formatting.bullets then Text.bulletLines (resolve b.content c) else [] := by
  unfold listItems textFragment textLines
  cases b.formatting.bullets with
  | true => simp [select_element, map_select_map item_bullet]
  | false => simp [select_element, select_map_nil no_item_lineDiv]

theorem lineMarkups_textFragment (b : TextBlock) (c : Context) :
    lineMarkups (textFragment b c)
      = if b.formatting.bullets then []
        else (Text.plainLines (resolve b.content c)).map lineMarkup := by
  unfold lineMarkups textFragment textLines
  cases b.formatting.bullets with
  | true => simp [select_element, select_map_nil no_line_bullet]
  | false => simp [select_element, map_select_map line_lineDiv]

/-! ## Headers -/

/-- The taglines of headers. -/
def taglines (ns : List Node) : List String :=
  (select (Element.hasClass "header-tagline") ns).map Element.shown

theorem taglines_headerFragment (b : HeaderBlock) (c : Context) :
    taglines (headerFragment b c) = (headerTagline? b c).toList := by
  unfold taglines headerFragment classDiv
  cases b.showLogo <;> cases headerTagline? b c <;> simp [select_element]

/-! ## Calls to action -/

theorem links_ctaFragment (b : CtaBlock) (c : Context) :
    links (ctaFragment b c) = [(some ((ctaHref? b c).getD "#"), ctaLabel b c)] := by
  unfold links ctaFragment
  simp [select_element]

/-! ## Session details -/

/-- What stands one below the other in session details: an element is a heading or a
    row. -/
def isDetail (e : Element) : Bool := e.hasTag "h3" || e.hasClass "session-detail-item"

@[simp] theorem isDetail_mk (tag : String) (attributes : List (String × String))
    (content : List Node) : isDetail ⟨tag, attributes, content⟩
      = (tag == "h3" || Element.hasClass "session-detail-item" ⟨tag, attributes, content⟩) :=
  rfl

/-- Heading and rows, each with its tag and the text that it shows. -/
def details (ns : List Node) : List (String × String) :=
  (select isDetail ns).map fun e => (e.tag, e.shown)

/-- A row of details as it is shown: the texts marked as labels and as values in it, and
    the links. -/
structure ShownRow where
  labels : List String
  values : List String
  links : List (Option String × String)
  deriving DecidableEq

/-- What an element shows as a row. -/
def ShownRow.ofElement (e : Element) : ShownRow where
  labels := (select (Element.hasClass "session-detail-label") e.content).map Element.shown
  values := (select (Element.hasClass "session-detail-value") e.content).map Element.shown
  links := Html.links e.content

/-- The rows of session details. -/
def shownRows (ns : List Node) : List ShownRow :=
  (select (Element.hasClass "session-detail-item") ns).map .ofElement

/-- How a row is to be shown: an address is linked to itself. -/
def SessionRow.shown (row : SessionRow) : ShownRow where
  labels := [row.label ++ ":"]
  values := [row.value.shown]
  links := match row.value with
    | .text _ => []
    | .link url => [(some url, url)]

theorem shown_rowNode (color : String) (row : SessionRow) :
    (select (Element.hasClass "session-detail-item") [rowNode color row]).map .ofElement
      = [row.shown] := by
  obtain ⟨label, value⟩ := row
  unfold rowNode classDiv SessionRow.shown
  cases value <;> simp [rowValueNode, select_element, ShownRow.ofElement, RowValue.shown, links]

theorem detail_rowNode (color : String) (row : SessionRow) :
    (select isDetail [rowNode color row]).map (fun e => (e.tag, e.shown))
      = [("div", row.label ++ ":" ++ row.value.shown)] := by
  obtain ⟨label, value⟩ := row
  unfold rowNode classDiv
  cases value <;> simp [rowValueNode, select_element, RowValue.shown]

theorem details_sessionFragment (b : SessionDetailsBlock) (c : Context)
    (branding : Option Branding) :
    details (sessionFragment b c branding)
      = ("h3", sessionHeading b c)
        :: (sessionRows b c).map fun row => ("div", row.label ++ ":" ++ row.value.shown) := by
  have hrows := map_select_map (detail_rowNode (linkColor branding)) (sessionRows b c)
  unfold details sessionFragment classDiv
  simp [select_element, hrows]

theorem shownRows_sessionFragment (b : SessionDetailsBlock) (c : Context)
    (branding : Option Branding) :
    shownRows (sessionFragment b c branding) = (sessionRows b c).map SessionRow.shown := by
  have hrows := map_select_map (shown_rowNode (linkColor branding)) (sessionRows b c)
  unfold shownRows sessionFragment classDiv
  simp [select_element, hrows]

/-! ## Footers -/

/-- The classes of what a footer shows in plain text too. -/
def footerClasses : List String :=
  ["footer-business-name", "footer-contact", "footer-custom-text"]

def isFooterPart (e : Element) : Bool := footerClasses.any fun className => e.hasClass className

theorem isFooterPart_iff {tag className : String} {content : List Node} :
    isFooterPart ⟨tag, [("class", className)], content⟩ = true ↔ className ∈ footerClasses := by
  simp [isFooterPart]

/-- What an element shows, with its class. -/
def classAndShown (e : Element) : Option String × String := (e.attribute? "class", e.shown)

/-- The parts of footers. -/
def footerParts (ns : List Node) : List (Option String × String) :=
  (select isFooterPart ns).map classAndShown

/-- The parts of a footer that are to be shown in plain text too. -/
def sharedParts (b : FooterBlock) (c : Context) (branding : Option Branding) :
    List (Option String × String) :=
  let identity := footerIdentity branding c
  (if b.showBusinessName then [(some "footer-business-name", identity.name)] else [])
    ++ (if b.showContactInfo then
        [(some "footer-contact", identity.phone), (some "footer-contact", identity.email)]
        else [])
    ++ (footerText? b c).toList.map fun text => (some "footer-custom-text", text)

theorem footerParts_append (ns ms : List Node) :
    footerParts (ns ++ ms) = footerParts ns ++ footerParts ms := by
  unfold footerParts
  rw [select_append, List.map_append]

theorem footerParts_footerLogo (identity : FooterIdentity) :
    footerParts [footerLogo identity] = [] := by
  unfold footerParts footerLogo classDiv
  cases identity.logoUrl <;>
    simp [select_element, select_voidElement, isFooterPart, footerClasses]

theorem footerParts_frame (content : List Node) :
    footerParts [classDiv "email-footer" content, Html.newline] = footerParts content := by
  have hframe : isFooterPart ⟨"div", [("class", "email-footer")], content⟩ = false := by
    rw [Bool.eq_false_iff, ne_eq, isFooterPart_iff]
    decide
  unfold footerParts classDiv
  rw [select_frame hframe, Html.select_newline, Html.select_nil, List.append_nil]

theorem footerParts_classDiv {className : String} (h : className ∈ footerClasses) (s : String) :
    footerParts [classDiv className [.text s]] = [(some className, s)] := by
  have hpart : isFooterPart ⟨"div", [("class", className)], [.text s]⟩ = true :=
    isFooterPart_iff.mpr h
  unfold footerParts classDiv
  rw [select_element, if_pos hpart, Html.select_text, Html.select_nil]
  simp [classAndShown]

theorem footerParts_if (flag : Bool) (ns : List Node) :
    footerParts (if flag then ns else []) = if flag then footerParts ns else [] := by
  cases flag <;> rfl

theorem footerParts_contact (phone email : String) :
    footerParts [classDiv "footer-contact" [.text phone], classDiv "footer-contact" [.text email]]
      = [(some "footer-contact", phone), (some "footer-contact", email)] := by
  have hcontact : "footer-contact" ∈ footerClasses := .tail _ (.head _)
  show footerParts ([classDiv "footer-contact" [.text phone]]
    ++ [classDiv "footer-contact" [.text email]]) = _
  rw [footerParts_append, footerParts_classDiv hcontact, footerParts_classDiv hcontact]
  rfl

theorem footerParts_footerFragment (b : FooterBlock) (c : Context) (branding : Option Branding) :
    footerParts (footerFragment b c branding) = sharedParts b c branding := by
  have hname : "footer-business-name" ∈ footerClasses := .head _
  have htext : "footer-custom-text" ∈ footerClasses := .tail _ (.tail _ (.head _))
  unfold footerFragment sharedParts
  rw [footerParts_frame, footerParts_append, footerParts_append, footerParts_append,
    footerParts_if, footerParts_if, footerParts_if, footerParts_footerLogo,
    footerParts_classDiv hname, footerParts_contact, ite_self, List.nil_append]
  cases footerText? b c with
  | some text =>
    rw [footerParts_classDiv htext]
    rfl
  | none => rfl

end BlockMail.Render
