import BlockMail.Dict

/-! # Payloads of blocks

The nine types of block and what each of them carries.  Where a value may be
missing it has the type `Option`; `{}` is the payload with nothing in it.
-/

namespace BlockMail

/-! ## Text -/

/-- Where the lines of a text stand. -/
inductive Alignment where
  | left
  | center
  | right
  deriving DecidableEq, Repr, Inhabited

/-- The alignment's name in style sheets. -/
def Alignment.name : Alignment → String
  | .left => "left"
  | .center => "center"
  | .right => "right"

/-- The alignment of a name; an unknown one is left. -/
def Alignment.ofName : String → Alignment
  | "center" => .center
  | "right" => .right
  | _ => .left

/-- The role of a text, which decides its size. -/
inductive FontSize where
  | h1
  | h2
  | h3
  | p
  deriving DecidableEq, Repr, Inhabited

def FontSize.name : FontSize → String
  | .h1 => "h1"
  | .h2 => "h2"
  | .h3 => "h3"
  | .p => "p"

/-- The role of a name; an unknown one is paragraph text. -/
def FontSize.ofName : String → FontSize
  | "h1" => .h1
  | "h2" => .h2
  | "h3" => .h3
  | _ => .p

/-- Style values of a text. -/
structure FontMetrics where
  size : String
  weight : String
  lineHeight : String
  marginBottom : String
  deriving DecidableEq, Repr

/-- The style values of a role. -/
def FontSize.metrics : FontSize → FontMetrics
  | .h1 => ⟨"32px", "bold", "1.2", "20px"⟩
  | .h2 => ⟨"24px", "bold", "1.3", "18px"⟩
  | .h3 => ⟨"20px", "bold", "1.4", "16px"⟩
  | .p => ⟨"16px", "normal", "1.6", "16px"⟩

/-- How a text is set. -/
structure TextFormatting where
  alignment : Option Alignment := none
  fontFamily : Option String := none
  bold : Bool := false
  italic : Bool := false
  /-- Every line is an item of a list. -/
  bullets : Bool := false
  fontSize : Option FontSize := none
  deriving DecidableEq, Inhabited

/-- A text with placeholders. -/
structure TextBlock where
  content : String := ""
  formatting : TextFormatting := {}
  deriving DecidableEq, Inhabited

/-! ## Other types -/

/-- The top of a message. -/
structure HeaderBlock where
  /-- Shown in plain text only. -/
  title : Option String := none
  tagline : Option String := none
  showLogo : Bool := false
  backgroundColor : Option String := none
  deriving DecidableEq, Inhabited

/-- The look of a call to action. -/
inductive CtaVariant where
  | primary
  | secondary
  | text
  deriving DecidableEq, Repr, Inhabited

def CtaVariant.name : CtaVariant → String
  | .primary => "primary"
  | .secondary => "secondary"
  | .text => "text"

/-- The look of a name; an unknown one is primary. -/
def CtaVariant.ofName : String → CtaVariant
  | "secondary" => .secondary
  | "text" => .text
  | _ => .primary

/-- A call to action: a link made to stand out. -/
structure CtaBlock where
  text : Option String := none
  link : Option String := none
  /-- The target where there is no `link`. -/
  url : Option String := none
  variant : Option CtaVariant := none
  deriving DecidableEq, Inhabited

/-- A picture. -/
structure ImageBlock where
  imageUrl : Option String := none
  src : Option String := none
  placeholderUrl : Option String := none
  /-- The picture is still to be chosen. -/
  placeholder : Bool := false
  alt : Option String := none
  caption : Option String := none
  deriving DecidableEq, Inhabited

/-- The details of the session that a message is about, each with a switch. -/
structure SessionDetailsBlock where
  customLabel : Option String := none
  showName : Bool := false
  showType : Bool := false
  showDuration : Bool := false
  showStatus : Bool := false
  showDate : Bool := false
  showTime : Bool := false
  showLocation : Bool := false
  showMeetingLink : Bool := false
  showProject : Bool := false
  showPackage : Bool := false
  showNotes : Bool := false
  customNotes : Option String := none
  meetingLabel : Option String := none
  projectLabel : Option String := none
  packageLabel : Option String := none
  deriving DecidableEq, Inhabited

/-- What a divider is made of. -/
inductive DividerStyle where
  | line
  | space
  deriving DecidableEq, Repr, Inhabited

def DividerStyle.name : DividerStyle → String
  | .line => "line"
  | .space => "space"

/-- The style of a name; an unknown one is blank space. -/
def DividerStyle.ofName : String → DividerStyle
  | "line" => .line
  | _ => .space

/-- A line or a gap between blocks. -/
structure DividerBlock where
  style : Option DividerStyle := none
  color : Option String := none
  /-- Height of the gap, in pixels. -/
  height : Option UInt32 := none
  deriving DecidableEq, Inhabited

/-- Links to the social channels of the branding. -/
structure SocialLinksBlock where
  /-- Which channels to show, by their keys; a channel that is not named here is
      shown. -/
  channelVisibility : Dict Bool := ∅
  deriving DecidableEq, Inhabited

def SocialLinksBlock.isVisible (b : SocialLinksBlock) (channel : String) : Bool :=
  b.channelVisibility.get? channel != some false

/-- The bottom of a message. -/
structure FooterBlock where
  showLogo : Bool := false
  showBusinessName : Bool := false
  showContactInfo : Bool := false
  customText : Option String := none
  deriving DecidableEq, Inhabited

/-- Markup that the author vouches for. -/
structure RawHtmlBlock where
  html : String := ""
  deriving DecidableEq, Inhabited

/-! ## Blocks -/

/-- The types of block, each with its payload. -/
inductive BlockKind where
  | text (b : TextBlock)
  | header (b : HeaderBlock)
  | cta (b : CtaBlock)
  | image (b : ImageBlock)
  | sessionDetails (b : SessionDetailsBlock)
  | divider (b : DividerBlock)
  | socialLinks (b : SocialLinksBlock)
  | footer (b : FooterBlock)
  | rawHtml (b : RawHtmlBlock)
  deriving DecidableEq, Inhabited

/-- The name that a type has in documents. -/
def BlockKind.typeName : BlockKind → String
  | .text _ => "text"
  | .header _ => "header"
  | .cta _ => "cta"
  | .image _ => "image"
  | .sessionDetails _ => "session-details"
  | .divider _ => "divider"
  | .socialLinks _ => "social-links"
  | .footer _ => "footer"
  | .rawHtml _ => "raw-html"

/-- One unit of a message. -/
structure Block where
  id : String
  /-- Position in the message.  Several blocks may have the same. -/
  order : Int64
  kind : BlockKind
  deriving DecidableEq, Inhabited

/-- The blocks in ascending order; blocks of equal order keep the order in which
    they are listed. -/
def inRenderOrder (blocks : List Block) : List Block :=
  blocks.mergeSort (fun a b => a.order ≤ b.order)

end BlockMail
