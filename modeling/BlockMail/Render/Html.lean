import BlockMail.Html.Node
import BlockMail.Render.Values
import BlockMail.Text.Lines

/-! # Blocks as HTML

Every type of block has its fragment, a list of nodes that ends with a line
break.  A block with nothing to show has the empty fragment.
-/

namespace BlockMail.Render

open Html (Node)
open Placeholder (resolve)

def classDiv (className : String) (content : List Node) : Node :=
  .element "div" [("class", className)] content

/-! ## Text -/

/-- The class of a font: the first word of its name in small letters. -/
def fontClass (family : Option String) : String :=
  Text.smallLetters (((Text.present? family).bind Text.firstWord?).getD "Arial")

/-- The style of a text. -/
def textStyle (f : TextFormatting) : String :=
  let metrics := (f.fontSize.getD .p).metrics
  "text-align: " ++ (f.alignment.getD .left).name
    ++ "; font-size: " ++ metrics.size
    ++ "; font-weight: " ++ metrics.weight
    ++ "; line-height: " ++ metrics.lineHeight
    ++ "; margin-bottom: " ++ metrics.marginBottom ++ ";"
    ++ (if f.bold then " font-weight: bold;" else "")
    ++ (if f.italic then " font-style: italic;" else "")

/-- A line of a text; a blank one keeps its height by a break. -/
def lineDiv (line : String) : Node :=
  .element "div" [] [if Text.isBlank line then .voidElement "br" [] else .text line]

/-- The lines of a text, as a list or as paragraphs. -/
def textLines (b : TextBlock) (c : Context) : List Node :=
  let content := resolve b.content c
  if b.formatting.bullets then
    [.element "ul" [("class", "bullet-list")]
      ((Text.bulletLines content).map fun line => .element "li" [] [.text line])]
  else (Text.plainLines content).map lineDiv

/-- The fragment of a text. -/
def textFragment (b : TextBlock) (c : Context) : List Node :=
  [ .element "div"
      [ ("class", "text-block font-" ++ fontClass b.formatting.fontFamily),
        ("style", textStyle b.formatting) ]
      (textLines b c),
    Html.newline ]

/-! ## Headers, calls to action, pictures -/

/-- The fragment of a header.  The title is for plain text alone. -/
def headerFragment (b : HeaderBlock) (c : Context) : List Node :=
  let background := (Text.present? b.backgroundColor).getD "#ffffff"
  [ .element "div"
      [("class", "email-header-block"), ("style", "background-color: " ++ background ++ ";")]
      ((if b.showLogo then [classDiv "header-logo" [.text "🏢"]] else [])
        ++ match headerTagline? b c with
          | some tagline => [.element "p" [("class", "header-tagline")] [.text tagline]]
          | none => []),
    Html.newline ]

/-- The fragment of a call to action. -/
def ctaFragment (b : CtaBlock) (c : Context) : List Node :=
  [ .element "div" [("style", "text-align: center; margin: 30px 0;")]
      [ .element "a"
          [ ("href", (ctaHref? b c).getD "#"),
            ("class", "cta-button cta-" ++ (b.variant.getD .primary).name) ]
          [.text (ctaLabel b c)] ],
    Html.newline ]

/-- The box that is shown for a picture still to be chosen. -/
def picturePlaceholder : Node :=
  .element "div"
    [("style", "width: 100%; height: 200px; background-color: #f3f4f6; "
      ++ "border: 2px dashed #d1d5db; border-radius: 8px; display: flex; align-items: center; "
      ++ "justify-content: center; color: #6b7280; font-size: 48px;")]
    [.text "🖼️"]

/-- The fragment of a picture; empty if there is nowhere to find one. -/
def imageFragment (b : ImageBlock) (c : Context) : List Node :=
  match imageUrl? b with
  | none => []
  | some url =>
    let caption := match imageCaption? b c with
      | some caption => [classDiv "image-caption" [.text caption]]
      | none => []
    -- the placeholder stands only where the block has no source
    let picture :=
      if b.placeholder && (Text.present? b.src).isNone then picturePlaceholder
      else .voidElement "img"
        [ ("src", url), ("alt", imageAlt b c),
          ("style", "max-width: 100%; height: auto; border-radius: 8px;") ]
    [classDiv "image-block" (picture :: caption), Html.newline]

/-! ## Session details -/

def linkColor (branding : Option Branding) : String :=
  (branding.map Branding.color).getD Branding.defaultColor

/-- The value of a row; an address is made a link. -/
def rowValueNode (color : String) : RowValue → Node
  | .text s => .text s
  | .link url =>
    .element "a"
      [("href", url), ("style", "color: " ++ color ++ "; text-decoration: underline;")]
      [.text url]

/-- A row of session details. -/
def rowNode (color : String) (row : SessionRow) : Node :=
  classDiv "session-detail-item"
    [ .element "span" [("class", "session-detail-label")] [.text (row.label ++ ":")],
      .element "span" [("class", "session-detail-value")] [rowValueNode color row.value] ]

/-- The fragment of session details. -/
def sessionFragment (b : SessionDetailsBlock) (c : Context) (branding : Option Branding) :
    List Node :=
  [ classDiv "session-details"
      (.element "h3" [] [.text (sessionHeading b c)]
        :: (sessionRows b c).map (rowNode (linkColor branding))),
    Html.newline ]

/-! ## Dividers, social links, footers -/

/-- The height of a gap, in pixels; zero counts as not given. -/
def gapHeight (b : DividerBlock) : UInt32 :=
  (b.height.filter (· > 0)).getD 20

/-- The fragment of a divider. -/
def dividerFragment (b : DividerBlock) : List Node :=
  match b.style.getD .space with
  | .line =>
    [ .voidElement "hr"
        [ ("class", "divider-line"),
          ("style", "border-color: " ++ (Text.present? b.color).getD "#e5e7eb" ++ ";") ],
      Html.newline ]
  | .space =>
    [ .element "div"
        [ ("class", "divider-space"),
          ("style", "height: " ++ toString (gapHeight b).toNat ++ "px;") ] [],
      Html.newline ]

/-- The channels that social links show, with their keys. -/
def shownChannels (b : SocialLinksBlock) (branding : Option Branding) :
    List (String × SocialChannel) :=
  match branding with
  | none => []
  | some branding => branding.visibleChannels b.isVisible

def channelLink (key : String) (channel : SocialChannel) : Node :=
  .element "a" [("href", channel.url.getD "")] [.text (channel.label key)]

/-- The fragment of social links; empty if there is no channel to show. -/
def socialFragment (b : SocialLinksBlock) (branding : Option Branding) : List Node :=
  match shownChannels b branding with
  | [] => []
  | channels =>
    [classDiv "social-links" (channels.map fun e => channelLink e.1 e.2), Html.newline]

/-- The logo in a footer, or else the first character of the name. -/
def footerLogo (identity : FooterIdentity) : Node :=
  match identity.logoUrl with
  | some logo =>
    .voidElement "img"
      [ ("src", logo), ("alt", identity.name),
        ("style", "max-width: 64px; max-height: 64px; margin: 0 auto 12px auto; display: block;") ]
  | none => classDiv "footer-logo" [.text (String.ofList (identity.name.toList.take 1))]

/-- The fragment of a footer. -/
def footerFragment (b : FooterBlock) (c : Context) (branding : Option Branding) : List Node :=
  let identity := footerIdentity branding c
  [ classDiv "email-footer"
      ((if b.showLogo then [footerLogo identity] else [])
        ++ (if b.showBusinessName then
            [classDiv "footer-business-name" [.text identity.name]] else [])
        ++ (if b.showContactInfo then
            [ classDiv "footer-contact" [.text identity.phone],
              classDiv "footer-contact" [.text identity.email] ] else [])
        ++ match footerText? b c with
          | some text => [classDiv "footer-custom-text" [.text text]]
          | none => []),
    Html.newline ]

/-! ## Any block -/

/-- The fragment of a block. -/
def fragment (kind : BlockKind) (c : Context) (branding : Option Branding) : List Node :=
  match kind with
  | .text b => textFragment b c
  | .header b => headerFragment b c
  | .cta b => ctaFragment b c
  | .image b => imageFragment b c
  | .sessionDetails b => sessionFragment b c branding
  | .divider b => dividerFragment b
  | .socialLinks b => socialFragment b branding
  | .footer b => footerFragment b c branding
  | .rawHtml b => [.raw b.html]

def blockHtml (b : Block) (c : Context) (branding : Option Branding) : String :=
  Html.printAll (fragment b.kind c branding)

end BlockMail.Render
