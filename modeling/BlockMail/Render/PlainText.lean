import BlockMail.Render.Values
import BlockMail.Text.Lines

/-! # Blocks as plain text

Texts, headers, calls to action, session details and footers have a text form;
blocks of other types have none.  In a message the forms are separated by a blank
line.
-/

namespace BlockMail.Render

open Placeholder (resolve)

/-- Texts with a separator between them. -/
def joinWith (separator : String) : List String → String
  | [] => ""
  | [s] => s
  | s :: rest => s ++ separator ++ joinWith separator rest

/-- Texts on lines of their own. -/
def joinLines (ls : List String) : String := joinWith "\n" ls

/-- The text form of a text: its content, or its lines with a dash before each. -/
def textForm (b : TextBlock) (c : Context) : String :=
  let content := resolve b.content c
  if b.formatting.bullets then
    joinLines ((Text.bulletLines content).map ("- " ++ ·))
  else content

/-- A title in capitals and a rule of the same length. -/
def underlined (title : String) : List String :=
  let title := Text.capitals (Text.trim title)
  [title, String.ofList (List.replicate title.length '=')]

/-- The lines of a header. -/
def headerLines (b : HeaderBlock) (c : Context) : List String :=
  (match headerTitle? b c with
    | some title => underlined title
    | none => [])
  ++ (headerTagline? b c).toList

/-- The text form of a header, if it has a line. -/
def headerForm? (b : HeaderBlock) (c : Context) : Option String :=
  match headerLines b c with
  | [] => none
  | ls => some (joinLines ls)

/-- The text form of a call to action. -/
def ctaForm (b : CtaBlock) (c : Context) : String :=
  match ctaHref? b c with
  | some href => ctaLabel b c ++ ": " ++ href
  | none => ctaLabel b c

def sessionForm (b : SessionDetailsBlock) (c : Context) : String :=
  joinLines (sessionHeading b c
    :: (sessionRows b c).map fun row => row.label ++ ": " ++ row.value.shown)

/-- The text form of a footer. -/
def footerForm (b : FooterBlock) (c : Context) (branding : Option Branding) : String :=
  let identity := footerIdentity branding c
  joinLines ("---"
    :: (if b.showBusinessName then [identity.name] else [])
    ++ (if b.showContactInfo then
        ["Phone: " ++ identity.phone, "Email: " ++ identity.email] else [])
    ++ (footerText? b c).toList)

/-- The text form of a block, if its type has one. -/
def textForm? (kind : BlockKind) (c : Context) (branding : Option Branding) : Option String :=
  match kind with
  | .text b => some (textForm b c)
  | .header b => headerForm? b c
  | .cta b => some (ctaForm b c)
  | .sessionDetails b => some (sessionForm b c)
  | .footer b => some (footerForm b c branding)
  | .image _ => none
  | .divider _ => none
  | .socialLinks _ => none
  | .rawHtml _ => none

/-- The text of a message: the text forms of its blocks, in order, those that are
    blank left out. -/
def plainText (blocks : List Block) (c : Context) (branding : Option Branding) : String :=
  joinWith "\n\n"
    (((inRenderOrder blocks).filterMap fun b => (textForm? b.kind c branding).map Text.trim).filter
      (· != ""))

end BlockMail.Render
