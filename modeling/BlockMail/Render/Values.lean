import BlockMail.Block.Payload
import BlockMail.Branding
import BlockMail.Placeholder
import BlockMail.Text.Casing

/-! # Values to show

Whatever a block shows in HTML and in plain text alike is computed here, once:
labels and targets of links, the rows of session details, headings, and the
identity in footers.  The two renderers only decide how it looks.
-/

namespace BlockMail.Render

open Placeholder (resolve resolve? resolveKey)

/-! ## Session details -/

/-- Stands for a detail that has no value. -/
def noValue : String := "—"

/-- Stands for a date or a time that is not fixed. -/
def unscheduled : String := "TBD"

/-- The value of a row. -/
inductive RowValue where
  | text (s : String)
  /-- An address that can be followed. -/
  | link (url : String)
  deriving DecidableEq, Repr, Inhabited

/-- The characters that a row's value shows. -/
def RowValue.shown : RowValue → String
  | .text s => s
  | .link url => url

/-- A labelled detail. -/
structure SessionRow where
  label : String
  value : RowValue
  deriving DecidableEq, Repr, Inhabited

/-- The block's own label, or the usual one where that is blank. -/
def labelOr (custom : Option String) (usual : String) : String :=
  ((Text.nonBlank? custom).map Text.trim).getD usual

/-- A row that shows what a placeholder stands for. -/
def keyRow (label key fallback : String) (c : Context) : SessionRow :=
  ⟨label, .text (resolveKey key fallback c)⟩

/-- The row with the address of the meeting. -/
def meetingRow (b : SessionDetailsBlock) (c : Context) : SessionRow :=
  ⟨labelOr b.meetingLabel "Meeting Link",
    match c.getNonBlank? "session_meeting_url" with
    | some url => .link url
    | none => .text noValue⟩

/-- The notes of the block, or else those of the session. -/
def sessionNotes (b : SessionDetailsBlock) (c : Context) : String :=
  match Text.nonBlank? b.customNotes with
  | some notes => resolve notes c
  | none => (c.getNonBlank? "session_notes").getD noValue

/-- Every row that session details can have, each with its switch, in the order
    in which they are shown. -/
def possibleRows (b : SessionDetailsBlock) (c : Context) : List (Bool × SessionRow) :=
  [ (b.showName, keyRow "Session" "session_name" noValue c),
    (b.showType, keyRow "Type" "session_type" noValue c),
    (b.showDuration, keyRow "Duration" "session_duration" noValue c),
    (b.showStatus, keyRow "Status" "session_status" noValue c),
    (b.showDate, keyRow "Date" "session_date" unscheduled c),
    (b.showTime, keyRow "Time" "session_time" unscheduled c),
    (b.showLocation, keyRow "Location" "session_location" noValue c),
    (b.showMeetingLink, meetingRow b c),
    (b.showProject, keyRow (labelOr b.projectLabel "Project") "project_name" noValue c),
    (b.showPackage, keyRow (labelOr b.packageLabel "Package") "project_package_name" noValue c),
    (b.showNotes, ⟨"Notes", .text (sessionNotes b c)⟩) ]

/-- The rows that are switched on. -/
def sessionRows (b : SessionDetailsBlock) (c : Context) : List SessionRow :=
  ((possibleRows b c).filter (·.1)).map (·.2)

def sessionHeading (b : SessionDetailsBlock) (c : Context) : String :=
  ((Text.nonBlank? b.customLabel).map (resolve · c)).getD "Session Details"

/-! ## Links, headers, pictures -/

def ctaLabel (b : CtaBlock) (c : Context) : String :=
  resolve ((Text.present? b.text).getD "Click Here") c

/-- The target of a call to action, if it has one. -/
def ctaHref? (b : CtaBlock) (c : Context) : Option String :=
  ((Text.present? b.link).or (Text.present? b.url)).map (resolve · c)

/-- The line under a header's title. -/
def headerTagline? (b : HeaderBlock) (c : Context) : Option String :=
  resolve? b.tagline c

def headerTitle? (b : HeaderBlock) (c : Context) : Option String :=
  (Text.nonBlank? b.title).map (resolve · c)

/-- The line under a picture. -/
def imageCaption? (b : ImageBlock) (c : Context) : Option String :=
  resolve? b.caption c

/-- The text that stands in for a picture: its own, or its caption. -/
def imageAlt (b : ImageBlock) (c : Context) : String :=
  (resolve? b.alt c).getD ((imageCaption? b c).getD "Image")

/-- Where a picture is found. -/
def imageUrl? (b : ImageBlock) : Option String :=
  ((Text.present? b.imageUrl).or (Text.present? b.src)).or (Text.present? b.placeholderUrl)

/-! ## Footers -/

/-- Who a message is from, as footers show it. -/
structure FooterIdentity where
  name : String
  phone : String
  email : String
  logoUrl : Option String
  deriving DecidableEq, Repr, Inhabited

/-- A value of the branding, unless it is blank. -/
def branded? (branding : Option Branding) (field : Branding → Option String) : Option String :=
  Text.nonBlank? (branding.bind field)

/-- The e-mail address that is made up from a business name. -/
def emailFor (name : String) : String :=
  "hello@" ++ Text.smallLetters (Text.squeeze name) ++ ".com"

/-- The branding comes first, then the values of the context, then fixed ones. -/
def footerIdentity (branding : Option Branding) (c : Context) : FooterIdentity :=
  let name := ((branded? branding (·.businessName)).or (c.get? "business_name")).getD
    "Your Business"
  { name
    phone := ((branded? branding (·.phone)).or (c.get? "business_phone")).getD
      "+1 (555) 123-4567"
    email := ((branded? branding (·.email)).or (c.get? "business_email")).getD (emailFor name)
    logoUrl := branded? branding (·.logoUrl) }

def footerText? (b : FooterBlock) (c : Context) : Option String :=
  resolve? b.customText c

end BlockMail.Render
