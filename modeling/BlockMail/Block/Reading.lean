import BlockMail.Block.Payload
import BlockMail.Json.Record

/-! # Reading payloads

Every payload is described by its fields, in the order they are declared in, and
by what each of them reads as.  A field that is missing or `null` has its
default, names that belong to no field are passed over, and a payload of `null`
is the empty one.

`BlockKind.read` is the reading of a payload by the name of its type.  It fails
for one of two reasons: the type is unknown, or the payload does not fit it.
-/

namespace BlockMail

open Json (Source Record Field)

variable {α : Type} [Source α]

/-- A truth value that is false unless written. -/
def readFlag (r : Record α) (i : Nat) : Option Bool :=
  r.orElse i false Json.readBool

/-- A text that may be missing. -/
def readText? (r : Record α) (i : Nat) : Option (Option String) :=
  r.optional i Json.readString

/-- One of a few names; any text will do. -/
def readName (ofName : String → β) (a : α) : Option β :=
  (Json.readString a).map ofName

/-! ## The payloads -/

def TextFormatting.fields : List Field :=
  [["alignment"], ["fontFamily"], ["bold"], ["italic"], ["bullets"], ["fontSize"]]

def TextFormatting.read (a : α) : Option TextFormatting := do
  let r ← Record.read? fields a
  return {
    alignment := ← r.optional 0 (readName Alignment.ofName)
    fontFamily := ← readText? r 1
    bold := ← readFlag r 2
    italic := ← readFlag r 3
    bullets := ← readFlag r 4
    fontSize := ← r.optional 5 (readName FontSize.ofName) }

def TextBlock.fields : List Field := [["content"], ["formatting"]]

def TextBlock.read (a : α) : Option TextBlock := do
  let r ← Record.read? fields a
  return {
    content := ← r.orElse 0 "" Json.readString
    formatting := ← r.orElse 1 {} TextFormatting.read }

def HeaderBlock.fields : List Field :=
  [["title"], ["tagline"], ["showLogo"], ["backgroundColor"]]

def HeaderBlock.read (a : α) : Option HeaderBlock := do
  let r ← Record.read? fields a
  return {
    title := ← readText? r 0
    tagline := ← readText? r 1
    showLogo := ← readFlag r 2
    backgroundColor := ← readText? r 3 }

def CtaBlock.fields : List Field := [["text"], ["link"], ["url"], ["variant"]]

def CtaBlock.read (a : α) : Option CtaBlock := do
  let r ← Record.read? fields a
  return {
    text := ← readText? r 0
    link := ← readText? r 1
    url := ← readText? r 2
    variant := ← r.optional 3 (readName CtaVariant.ofName) }

def ImageBlock.fields : List Field :=
  [["imageUrl"], ["src"], ["placeholderUrl"], ["placeholder"], ["alt"], ["caption"]]

def ImageBlock.read (a : α) : Option ImageBlock := do
  let r ← Record.read? fields a
  return {
    imageUrl := ← readText? r 0
    src := ← readText? r 1
    placeholderUrl := ← readText? r 2
    placeholder := ← readFlag r 3
    alt := ← readText? r 4
    caption := ← readText? r 5 }

def SessionDetailsBlock.fields : List Field :=
  [ ["customLabel"], ["showName"], ["showType"], ["showDuration"], ["showStatus"],
    ["showDate"], ["showTime"], ["showLocation"], ["showMeetingLink"], ["showProject"],
    ["showPackage"], ["showNotes"], ["customNotes"], ["meetingLabel"], ["projectLabel"],
    ["packageLabel"] ]

def SessionDetailsBlock.read (a : α) : Option SessionDetailsBlock := do
  let r ← Record.read? fields a
  return {
    customLabel := ← readText? r 0
    showName := ← readFlag r 1
    showType := ← readFlag r 2
    showDuration := ← readFlag r 3
    showStatus := ← readFlag r 4
    showDate := ← readFlag r 5
    showTime := ← readFlag r 6
    showLocation := ← readFlag r 7
    showMeetingLink := ← readFlag r 8
    showProject := ← readFlag r 9
    showPackage := ← readFlag r 10
    showNotes := ← readFlag r 11
    customNotes := ← readText? r 12
    meetingLabel := ← readText? r 13
    projectLabel := ← readText? r 14
    packageLabel := ← readText? r 15 }

def DividerBlock.fields : List Field := [["style"], ["color"], ["height"]]

def DividerBlock.read (a : α) : Option DividerBlock := do
  let r ← Record.read? fields a
  return {
    style := ← r.optional 0 (readName DividerStyle.ofName)
    color := ← readText? r 1
    height := ← r.optional 2 Json.readUInt32 }

def SocialLinksBlock.fields : List Field := [["channelVisibility"]]

def SocialLinksBlock.read (a : α) : Option SocialLinksBlock := do
  let r ← Record.read? fields a
  return { channelVisibility := ← r.orElse 0 ∅ (Json.readDict Json.readBool) }

def FooterBlock.fields : List Field :=
  [["showLogo"], ["showStudioName", "showBusinessName"], ["showContactInfo"], ["customText"]]

def FooterBlock.read (a : α) : Option FooterBlock := do
  let r ← Record.read? fields a
  return {
    showLogo := ← readFlag r 0
    showBusinessName := ← readFlag r 1
    showContactInfo := ← readFlag r 2
    customText := ← readText? r 3 }

def RawHtmlBlock.fields : List Field := [["html"]]

def RawHtmlBlock.read (a : α) : Option RawHtmlBlock := do
  let r ← Record.read? fields a
  return { html := ← r.orElse 0 "" Json.readString }

/-! ## By the name of the type -/

/-- Why a payload is not read. -/
inductive PayloadFault where
  | unknownType
  | malformed
  deriving DecidableEq, Repr, Inhabited

/-- How the payload of a type is read; none for an unknown type. -/
def payloadReader? (typeName : String) : Option (α → Option BlockKind) :=
  match typeName with
  | "text" => some fun a => (TextBlock.read a).map .text
  | "header" => some fun a => (HeaderBlock.read a).map .header
  | "cta" => some fun a => (CtaBlock.read a).map .cta
  | "image" => some fun a => (ImageBlock.read a).map .image
  | "session-details" => some fun a => (SessionDetailsBlock.read a).map .sessionDetails
  | "divider" => some fun a => (DividerBlock.read a).map .divider
  | "social-links" => some fun a => (SocialLinksBlock.read a).map .socialLinks
  | "footer" => some fun a => (FooterBlock.read a).map .footer
  | "raw-html" => some fun a => (RawHtmlBlock.read a).map .rawHtml
  | _ => none

/-- A payload of `null` is the empty one. -/
def payloadOf : Json.Value → Json.Value
  | .null => .object []
  | v => v

/-- Reads the payload of a block whose type has the given name. -/
def BlockKind.read (typeName : String) (payload : Json.Value) :
    Except PayloadFault BlockKind :=
  match payloadReader? typeName with
  | none => .error .unknownType
  | some reader =>
    match reader (payloadOf payload) with
    | none => .error .malformed
    | some kind => .ok kind

end BlockMail
