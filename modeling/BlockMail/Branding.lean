import BlockMail.Json.Record
import BlockMail.Text.Blank

/-! # Branding

How the sending organization looks and how it can be reached.  Everything is
optional, and a blank value counts as absent wherever it would be shown.

- `Branding.read` accepts, beside the names that `Branding.toJson` writes, the
  column names of an organization's settings.
- `Branding.visibleChannels` is the order in which social channels are shown.
-/

namespace BlockMail

/-- A social channel of an organization. -/
structure SocialChannel where
  name : Option String := none
  url : Option String := none
  /-- Position among the channels; missing reads as zero. -/
  order : Option Int64 := none
  deriving DecidableEq, Inhabited

namespace SocialChannel

/-- Position among the channels. -/
def position (c : SocialChannel) : Int64 := c.order.getD 0

/-- The name to show, or else the key of the channel. -/
def label (c : SocialChannel) (key : String) : String :=
  (Text.present? c.name).getD key

/-- A channel is worth a link when its address is not blank. -/
def isLinkable (c : SocialChannel) : Bool :=
  (Text.nonBlank? c.url).isSome

def fields : List Json.Field := [["name"], ["url"], ["order"]]

def read {α : Type} [Json.Source α] (a : α) : Option SocialChannel := do
  let r ← Json.Record.read? fields a
  return {
    name := ← r.optional 0 Json.readString
    url := ← r.optional 1 Json.readString
    order := ← r.optional 2 Json.readInt64 }

def toJson (c : SocialChannel) : Json.Value :=
  .object [("name", .ofText? c.name), ("url", .ofText? c.url), ("order", .ofInt64? c.order)]

end SocialChannel

/-- Visual identity and contact details of an organization. -/
structure Branding where
  businessName : Option String := none
  brandColor : Option String := none
  logoUrl : Option String := none
  phone : Option String := none
  email : Option String := none
  /-- Channels by their keys. -/
  socialChannels : Option (Dict SocialChannel) := none
  deriving DecidableEq, Inhabited

namespace Branding

/-- The colour of links when none is chosen. -/
def defaultColor : String := "#2563eb"

def color (b : Branding) : String :=
  (Text.nonBlank? b.brandColor).getD defaultColor

/-- Channels worth a link whose key passes the test, in ascending position;
    channels of one position are in the order of their keys. -/
def visibleChannels (b : Branding) (isVisible : String → Bool) :
    List (String × SocialChannel) :=
  match b.socialChannels with
  | none => []
  | some channels =>
    (channels.entries.filter fun e => e.2.isLinkable && isVisible e.1).mergeSort
      (fun x y => x.2.position ≤ y.2.position)

def fields : List Json.Field :=
  [ ["businessName", "photography_business_name", "business_name"],
    ["brandColor", "primary_brand_color"],
    ["logoUrl", "logo_url"],
    ["phone"],
    ["email"],
    ["socialChannels", "social_channels"] ]

def read {α : Type} [Json.Source α] (a : α) : Option Branding := do
  let r ← Json.Record.read? fields a
  return {
    businessName := ← r.optional 0 Json.readString
    brandColor := ← r.optional 1 Json.readString
    logoUrl := ← r.optional 2 Json.readString
    phone := ← r.optional 3 Json.readString
    email := ← r.optional 4 Json.readString
    socialChannels := ← r.optional 5 (Json.readDict SocialChannel.read) }

def toJson (b : Branding) : Json.Value :=
  .object
    [ ("businessName", .ofText? b.businessName),
      ("brandColor", .ofText? b.brandColor),
      ("logoUrl", .ofText? b.logoUrl),
      ("phone", .ofText? b.phone),
      ("email", .ofText? b.email),
      ("socialChannels",
        match b.socialChannels with
        | none => .null
        | some channels => .object (channels.entries.map fun e => (e.1, e.2.toJson))) ]

end Branding

end BlockMail
