import BlockMail.Proofs.Render.Body
import BlockMail.Proofs.Render.PlainValues

/-! # Messages are well nested

Nothing is escaped when a message is printed, so its markup is well nested only if the
strings that are put into it are plain, and the markup that is copied is well nested itself.
Then every fragment is well nested on its own, and so is the page.  The page opens four
elements around the blocks and closes them behind the last one, so every block stays inside
the container for the blocks.
-/

namespace BlockMail

open Html (Node Plain AllTidy TidyAttributes OpenElement WellNested Reads Holds newline openAfter
  openAfter_eq_some_iff opened? tidy_element tidy_newline)
open Placeholder (plain_resolve plain_resolve? plain_resolveKey)

/-! ## The strings that are put in -/

/-- The strings of a block that its markup shows.  Raw markup is not among them, nor is the
    title of a header, which is for plain text alone. -/
def BlockKind.shownStrings : BlockKind → List String
  | .text b => b.content :: b.formatting.fontFamily.toList
  | .header b => b.tagline.toList ++ b.backgroundColor.toList
  | .cta b => b.text.toList ++ b.link.toList ++ b.url.toList
  | .image b =>
    b.imageUrl.toList ++ b.src.toList ++ b.placeholderUrl.toList ++ b.alt.toList
      ++ b.caption.toList
  | .sessionDetails b =>
    b.customLabel.toList ++ b.customNotes.toList ++ b.meetingLabel.toList
      ++ b.projectLabel.toList ++ b.packageLabel.toList
  | .divider b => b.color.toList
  | .footer b => b.customText.toList
  | .socialLinks _ | .rawHtml _ => []

def SocialChannel.shownStrings (c : SocialChannel) : List String := c.name.toList ++ c.url.toList

def Branding.shownStrings (b : Branding) : List String :=
  b.businessName.toList ++ b.brandColor.toList ++ b.logoUrl.toList ++ b.phone.toList
    ++ b.email.toList
    ++ b.socialChannels.toList.flatMap fun channels =>
      channels.entries.flatMap fun e => e.1 :: e.2.shownStrings

/-- All strings that are put into the markup of a document. -/
def Document.shownStrings (d : Document) (o : Render.Options) : List String :=
  d.subject :: d.preheader.toList ++ d.blocks.flatMap (·.kind.shownStrings)
    ++ d.data.entries.map (·.2) ++ d.branding.toList.flatMap Branding.shownStrings
    ++ [o.senderLabel, o.unsubscribeAddress]

/-- Every string of the branding, if there is one, is plain. -/
def Branding.PlainIfAny (branding : Option Branding) : Prop :=
  ∀ b ∈ branding, ∀ s ∈ b.shownStrings, Plain s

theorem Branding.PlainIfAny.fields {branding : Option Branding} (h : PlainIfAny branding) :
    BlockMail.PlainIfAny (branding.bind (·.businessName))
      ∧ BlockMail.PlainIfAny (branding.bind (·.brandColor))
      ∧ BlockMail.PlainIfAny (branding.bind (·.logoUrl))
      ∧ BlockMail.PlainIfAny (branding.bind (·.phone))
      ∧ BlockMail.PlainIfAny (branding.bind (·.email)) := by
  cases branding with
  | none => exact ⟨nofun, nofun, nofun, nofun, nofun⟩
  | some b =>
    have hstrings := h b rfl
    simp only [Branding.shownStrings, List.forall_mem_append, Option.mem_toList] at hstrings
    obtain ⟨⟨⟨⟨⟨hname, hcolor⟩, hlogo⟩, hphone⟩, hemail⟩, -⟩ := hstrings
    exact ⟨hname, hcolor, hlogo, hphone, hemail⟩

namespace Render

variable {c : Context} {branding : Option Branding}

/-! ## Fragments -/

theorem tidy_classDiv {className : String} {content : List Node} (hclass : Plain className)
    (hcontent : AllTidy content) : (classDiv className content).Tidy :=
  tidy_element (by decide) (.single rfl hclass) hcontent

theorem tidy_fragment {n : Node} (h : n.Tidy) : AllTidy [n, Html.newline] :=
  .cons h (.single tidy_newline)

theorem plain_textStyle (f : TextFormatting) : Plain (textStyle f) := by
  have halignment : Plain (f.alignment.getD .left).name := by
    cases f.alignment.getD .left <;> exact .lit rfl
  have hmetrics : Plain (f.fontSize.getD .p).metrics.size
      ∧ Plain (f.fontSize.getD .p).metrics.weight ∧ Plain (f.fontSize.getD .p).metrics.lineHeight
      ∧ Plain (f.fontSize.getD .p).metrics.marginBottom := by
    cases f.fontSize.getD .p <;> exact ⟨.lit rfl, .lit rfl, .lit rfl, .lit rfl⟩
  have hbold : Plain (if f.bold then " font-weight: bold;" else "") := by
    cases f.bold <;> exact .lit rfl
  have hitalic : Plain (if f.italic then " font-style: italic;" else "") := by
    cases f.italic <;> exact .lit rfl
  obtain ⟨hsize, hweight, hheight, hmargin⟩ := hmetrics
  unfold textStyle
  refine .append (.append (.append ?_ (.lit rfl)) hbold) hitalic
  refine .append (.append ?_ (.lit rfl)) hmargin
  refine .append (.append ?_ (.lit rfl)) hheight
  refine .append (.append ?_ (.lit rfl)) hweight
  exact .append (.append (.append (.lit rfl) halignment) (.lit rfl)) hsize

theorem plain_fontClass {family : Option String} (h : PlainIfAny family) :
    Plain (fontClass family) := by
  have hword : PlainIfAny ((Text.present? family).bind Text.firstWord?) := by
    intro word hword
    obtain ⟨name, hname, hword⟩ := Option.bind_eq_some_iff.mp hword
    exact Text.plain_firstWord? (h.present? name hname) word hword
  exact Text.plain_smallLetters (hword.getD (.lit rfl))

theorem tidy_lineDiv {line : String} (h : Plain line) : (lineDiv line).Tidy := by
  refine tidy_element (by decide) .nil (.single ?_)
  split
  · exact .voidElement (by decide) .nil
  · exact .text h

theorem tidy_textFragment {b : TextBlock} (hb : ∀ s ∈ BlockKind.shownStrings (.text b), Plain s)
    (hc : c.Plain) : AllTidy (textFragment b c) := by
  obtain ⟨hcontent, hfamily⟩ := List.forall_mem_cons.mp hb
  simp only [Option.mem_toList] at hfamily
  have hresolved := plain_resolve hcontent hc
  have hlines : AllTidy (textLines b c) := by
    unfold textLines
    split
    · refine .single (tidy_element (by decide) (.single rfl (.lit rfl)) ?_)
      refine .map fun line hline => tidy_element (by decide) .nil (.single (.text ?_))
      exact Text.plain_of_mem_bulletLines hresolved hline
    · exact .map fun line hline => tidy_lineDiv (Text.plain_of_mem_plainLines hresolved hline)
  refine tidy_fragment (tidy_element (by decide) (.cons rfl ?_ ?_) hlines)
  · exact .append (.lit rfl) (plain_fontClass hfamily)
  · exact .single rfl (plain_textStyle _)

theorem tidy_headerFragment {b : HeaderBlock}
    (hb : ∀ s ∈ BlockKind.shownStrings (.header b), Plain s) (hc : c.Plain) :
    AllTidy (headerFragment b c) := by
  simp only [BlockKind.shownStrings, List.forall_mem_append, Option.mem_toList] at hb
  obtain ⟨htagline, hcolor : PlainIfAny b.backgroundColor⟩ := hb
  have hbackground := hcolor.present?.getD (.lit rfl : Plain "#ffffff")
  refine tidy_fragment (tidy_element (by decide) ?_ (.append ?_ ?_))
  · refine .cons rfl (.lit rfl) (.single rfl ?_)
    exact .append (.append (.lit rfl) hbackground) (.lit rfl)
  · exact .ite (.single (tidy_classDiv (.lit rfl) (.single (.text (.lit rfl)))))
  · split
    · next tagline heq =>
      have hline := plain_resolve? htagline hc tagline heq
      exact .single (tidy_element (by decide) (.single rfl (.lit rfl)) (.single (.text hline)))
    · exact .nil

theorem tidy_ctaFragment {b : CtaBlock} (hb : ∀ s ∈ BlockKind.shownStrings (.cta b), Plain s)
    (hc : c.Plain) : AllTidy (ctaFragment b c) := by
  simp only [BlockKind.shownStrings, List.forall_mem_append, Option.mem_toList] at hb
  obtain ⟨⟨htext : PlainIfAny b.text, hlink : PlainIfAny b.link⟩, hurl : PlainIfAny b.url⟩ := hb
  have hlabel : Plain (ctaLabel b c) := plain_resolve (htext.present?.getD (.lit rfl)) hc
  have hhref : PlainIfAny (ctaHref? b c) :=
    (hlink.present?.or hurl.present?).map fun _ hs => plain_resolve hs hc
  have hvariant : Plain (b.variant.getD .primary).name := by
    cases b.variant.getD .primary <;> exact .lit rfl
  have hlink : TidyAttributes [("href", (ctaHref? b c).getD "#"),
      ("class", "cta-button cta-" ++ (b.variant.getD .primary).name)] :=
    .cons rfl (hhref.getD (.lit rfl)) (.single rfl (.append (.lit rfl) hvariant))
  refine tidy_fragment (tidy_element (by decide) (.single rfl (.lit rfl)) (.single ?_))
  exact tidy_element (by decide) hlink (.single (.text hlabel))

theorem tidy_imageFragment {b : ImageBlock}
    (hb : ∀ s ∈ BlockKind.shownStrings (.image b), Plain s) (hc : c.Plain) :
    AllTidy (imageFragment b c) := by
  simp only [BlockKind.shownStrings, List.forall_mem_append, Option.mem_toList] at hb
  obtain ⟨⟨⟨⟨himage : PlainIfAny b.imageUrl, hsrc : PlainIfAny b.src⟩,
    hplaceholder : PlainIfAny b.placeholderUrl⟩, halt⟩, hcaption⟩ := hb
  have hcaption : PlainIfAny (imageCaption? b c) := plain_resolve? hcaption hc
  have halt : Plain (imageAlt b c) := (plain_resolve? halt hc).getD (hcaption.getD (.lit rfl))
  have hurl : PlainIfAny (imageUrl? b) :=
    (himage.present?.or hsrc.present?).or hplaceholder.present?
  unfold imageFragment
  split
  · exact .nil
  · next url heq =>
    refine tidy_fragment (tidy_classDiv (.lit rfl) (.cons ?_ ?_))
    · split
      · refine tidy_element (by decide) (.single rfl ?_) (.single (.text (.lit rfl)))
        exact .append (.append (.lit rfl) (.lit rfl)) (.lit rfl)
      · refine .voidElement (by decide) (.cons rfl (hurl url heq) ?_)
        exact .cons rfl halt (.single rfl (.lit rfl))
    · split
      · next caption heq =>
        exact .single (tidy_classDiv (.lit rfl) (.single (.text (hcaption caption heq))))
      · exact .nil

/-! ### Session details -/

theorem plain_labelOr {custom : Option String} {usual : String} (hcustom : PlainIfAny custom)
    (husual : Plain usual) : Plain (labelOr custom usual) :=
  (hcustom.nonBlank?.map fun _ hs => Text.plain_trim hs).getD husual

/-- The characters of a row are plain. -/
def SessionRow.Plain (row : SessionRow) : Prop :=
  Html.Plain row.label ∧ Html.Plain row.value.shown

theorem plain_keyRow {label fallback : String} (key : String) (hlabel : Plain label)
    (hfallback : Plain fallback) (hc : c.Plain) : (keyRow label key fallback c).Plain :=
  ⟨hlabel, plain_resolveKey key hfallback hc⟩

theorem plain_meetingRow {b : SessionDetailsBlock} (hlabel : PlainIfAny b.meetingLabel)
    (hc : c.Plain) : (meetingRow b c).Plain := by
  refine ⟨plain_labelOr hlabel (.lit rfl), ?_⟩
  unfold meetingRow
  cases heq : c.getNonBlank? "session_meeting_url" with
  | some url => exact hc.getNonBlank? _ url heq
  | none => exact .lit rfl

theorem plain_sessionNotes {b : SessionDetailsBlock} (hnotes : PlainIfAny b.customNotes)
    (hc : c.Plain) : Plain (sessionNotes b c) := by
  unfold sessionNotes
  split
  · next notes heq => exact plain_resolve (hnotes.nonBlank? notes heq) hc
  · exact (hc.getNonBlank? _).getD (.lit rfl)

theorem plain_of_mem_sessionRows {b : SessionDetailsBlock}
    (hb : ∀ s ∈ BlockKind.shownStrings (.sessionDetails b), Plain s) (hc : c.Plain) :
    ∀ row ∈ sessionRows b c, row.Plain := by
  simp only [BlockKind.shownStrings, List.forall_mem_append, Option.mem_toList] at hb
  obtain ⟨⟨⟨⟨-, hnotes⟩, hmeeting⟩, hproject⟩, hpackage⟩ := hb
  have hall : ∀ e ∈ possibleRows b c, e.2.Plain := by
    simp only [possibleRows, List.forall_mem_cons]
    refine ⟨?_, ?_, ?_, ?_, ?_, ?_, ?_, ?_, ?_, ?_, ?_⟩
    case refine_8 => exact plain_meetingRow hmeeting hc
    case refine_9 => exact plain_keyRow _ (plain_labelOr hproject (.lit rfl)) (.lit rfl) hc
    case refine_10 => exact plain_keyRow _ (plain_labelOr hpackage (.lit rfl)) (.lit rfl) hc
    case refine_11 => exact ⟨⟨.lit rfl, plain_sessionNotes hnotes hc⟩, nofun⟩
    all_goals exact plain_keyRow _ (.lit rfl) (.lit rfl) hc
  intro row hrow
  obtain ⟨e, he, rfl⟩ := List.mem_map.mp hrow
  exact hall e (List.mem_filter.mp he).1

theorem plain_linkColor (hbranding : Branding.PlainIfAny branding) :
    Plain (linkColor branding) := by
  cases branding with
  | none => exact .lit rfl
  | some b =>
    obtain ⟨-, hcolor, -⟩ := hbranding.fields
    exact hcolor.nonBlank?.getD (.lit rfl)

theorem tidy_rowNode {color : String} {row : SessionRow} (hcolor : Plain color) (hrow : row.Plain) :
    (rowNode color row).Tidy := by
  obtain ⟨label, value⟩ := row
  obtain ⟨hlabel, hvalue⟩ := hrow
  have hnode : (rowValueNode color value).Tidy := by
    cases value with
    | text s => exact .text hvalue
    | link url =>
      refine tidy_element (by decide) (.cons rfl hvalue (.single rfl ?_)) (.single (.text hvalue))
      exact .append (.append (.lit rfl) hcolor) (.lit rfl)
  refine tidy_classDiv (.lit rfl) (.cons ?_ (.single ?_))
  · refine tidy_element (by decide) (.single rfl (.lit rfl)) (.single (.text ?_))
    exact .append hlabel (.lit rfl)
  · exact tidy_element (by decide) (.single rfl (.lit rfl)) (.single hnode)

theorem tidy_sessionFragment {b : SessionDetailsBlock}
    (hb : ∀ s ∈ BlockKind.shownStrings (.sessionDetails b), Plain s) (hc : c.Plain)
    (hbranding : Branding.PlainIfAny branding) : AllTidy (sessionFragment b c branding) := by
  have hrows := plain_of_mem_sessionRows hb hc
  simp only [BlockKind.shownStrings, List.forall_mem_append, Option.mem_toList] at hb
  obtain ⟨⟨⟨⟨hlabel : PlainIfAny b.customLabel, -⟩, -⟩, -⟩, -⟩ := hb
  have hheading : Plain (sessionHeading b c) :=
    (hlabel.nonBlank?.map fun _ hs => plain_resolve hs hc).getD (.lit rfl)
  refine tidy_fragment (tidy_classDiv (.lit rfl) (.cons ?_ (.map fun row hrow => ?_)))
  · exact tidy_element (by decide) .nil (.single (.text hheading))
  · exact tidy_rowNode (plain_linkColor hbranding) (hrows row hrow)

/-! ### Dividers, social links, footers -/

theorem tidy_dividerFragment {b : DividerBlock}
    (hb : ∀ s ∈ BlockKind.shownStrings (.divider b), Plain s) : AllTidy (dividerFragment b) := by
  have hcolor : PlainIfAny b.color := fun s hs => hb s (Option.mem_toList.mpr hs)
  unfold dividerFragment
  split
  · refine tidy_fragment (.voidElement (by decide) (.cons rfl (.lit rfl) (.single rfl ?_)))
    exact .append (.append (.lit rfl) (hcolor.present?.getD (.lit rfl))) (.lit rfl)
  · refine tidy_fragment (tidy_element (by decide) (.cons rfl (.lit rfl) (.single rfl ?_)) .nil)
    exact .append (.append (.lit rfl) (Text.plain_toString _)) (.lit rfl)

theorem tidy_channelLink {key : String} {channel : SocialChannel} (hkey : Plain key)
    (hchannel : ∀ s ∈ channel.shownStrings, Plain s) : (channelLink key channel).Tidy := by
  simp only [SocialChannel.shownStrings, List.forall_mem_append, Option.mem_toList] at hchannel
  obtain ⟨hname : PlainIfAny channel.name, hurl : PlainIfAny channel.url⟩ := hchannel
  refine tidy_element (by decide) (.single rfl (hurl.getD (.lit rfl))) (.single (.text ?_))
  exact hname.present?.getD hkey

theorem tidy_socialFragment (b : SocialLinksBlock) (hbranding : Branding.PlainIfAny branding) :
    AllTidy (socialFragment b branding) := by
  have hshown : ∀ e ∈ shownChannels b branding, (channelLink e.1 e.2).Tidy := by
    intro e he
    cases branding with
    | none => cases he
    | some branding =>
      cases hchannels : branding.socialChannels with
      | none =>
        simp [shownChannels, Branding.visibleChannels, hchannels] at he
      | some channels =>
        simp only [shownChannels, Branding.visibleChannels, hchannels, List.mem_mergeSort] at he
        have hstrings : ∀ s ∈ e.1 :: e.2.shownStrings, Plain s := by
          intro s hs
          refine hbranding branding rfl s ?_
          simp only [Branding.shownStrings, hchannels, Option.toList_some, List.mem_append,
            List.mem_flatMap, List.mem_singleton, exists_eq_left]
          exact .inr ⟨e, (List.mem_filter.mp he).1, hs⟩
        obtain ⟨hkey, hchannel⟩ := List.forall_mem_cons.mp hstrings
        exact tidy_channelLink hkey hchannel
  unfold socialFragment
  split
  · exact .nil
  · exact tidy_fragment (tidy_classDiv (.lit rfl) (.map hshown))

theorem plain_footerIdentity (hc : c.Plain) (hbranding : Branding.PlainIfAny branding) :
    Plain (footerIdentity branding c).name ∧ Plain (footerIdentity branding c).phone
      ∧ Plain (footerIdentity branding c).email
      ∧ PlainIfAny (footerIdentity branding c).logoUrl := by
  obtain ⟨hname, -, hlogo, hphone, hemail⟩ := hbranding.fields
  have hshown : Plain (footerIdentity branding c).name :=
    (hname.nonBlank?.or (hc.get? _)).getD (.lit rfl)
  refine ⟨hshown, (hphone.nonBlank?.or (hc.get? _)).getD (.lit rfl),
    (hemail.nonBlank?.or (hc.get? _)).getD ?_, hlogo.nonBlank?⟩
  have hsqueezed := Text.plain_smallLetters (Text.plain_squeeze hshown)
  exact .append (.append (.lit rfl) hsqueezed) (.lit rfl)

theorem tidy_footerLogo {identity : FooterIdentity} (hname : Plain identity.name)
    (hlogo : PlainIfAny identity.logoUrl) : (footerLogo identity).Tidy := by
  unfold footerLogo
  split
  · next logo heq =>
    refine .voidElement (by decide) (.cons rfl (hlogo logo heq) ?_)
    exact .cons rfl hname (.single rfl (.lit rfl))
  · refine tidy_classDiv (.lit rfl) (.single (.text ?_))
    exact Text.plain_ofList hname fun _ hc => List.mem_of_mem_take hc

theorem tidy_footerFragment {b : FooterBlock}
    (hb : ∀ s ∈ BlockKind.shownStrings (.footer b), Plain s) (hc : c.Plain)
    (hbranding : Branding.PlainIfAny branding) : AllTidy (footerFragment b c branding) := by
  have hcustom : PlainIfAny b.customText := fun s hs => hb s (Option.mem_toList.mpr hs)
  obtain ⟨hname, hphone, hemail, hlogo⟩ := plain_footerIdentity hc hbranding
  have hdiv : ∀ {className s : String}, Plain className → Plain s →
      (classDiv className [.text s]).Tidy := fun hclass hs =>
    tidy_classDiv hclass (.single (.text hs))
  refine tidy_fragment (tidy_classDiv (.lit rfl) (.append (.append (.append ?_ ?_) ?_) ?_))
  · exact .ite (.single (tidy_footerLogo hname hlogo))
  · exact .ite (.single (hdiv (.lit rfl) hname))
  · exact .ite (.cons (hdiv (.lit rfl) hphone) (.single (hdiv (.lit rfl) hemail)))
  · split
    · next text heq => exact .single (hdiv (.lit rfl) (plain_resolve? hcustom hc text heq))
    · exact .nil

/-- The fragment of any block is well nested on its own. -/
theorem tidy_of_kind {kind : BlockKind} (hkind : ∀ s ∈ kind.shownStrings, Plain s)
    (hraw : ∀ b, kind = .rawHtml b → WellNested b.html) (hc : c.Plain)
    (hbranding : Branding.PlainIfAny branding) : AllTidy (fragment kind c branding) := by
  cases kind with
  | text b => exact tidy_textFragment hkind hc
  | header b => exact tidy_headerFragment hkind hc
  | cta b => exact tidy_ctaFragment hkind hc
  | image b => exact tidy_imageFragment hkind hc
  | sessionDetails b => exact tidy_sessionFragment hkind hc hbranding
  | divider b => exact tidy_dividerFragment hkind
  | socialLinks b => exact tidy_socialFragment b hbranding
  | footer b => exact tidy_footerFragment hkind hc hbranding
  | rawHtml b => exact .single (.raw (hraw b rfl))

/-! ## The page around the blocks -/

theorem plain_styleRule {r : StyleRule} {indent : String} (hindent : Plain indent)
    (hselector : Plain r.selector) (hdeclarations : ∀ d ∈ r.declarations, Plain d) :
    Plain (r.print indent) := by
  refine .append (.append (.append hindent hselector) (.lit rfl)) ?_
  generalize r.declarations = declarations at hdeclarations
  induction declarations with
  | nil => exact .lit rfl
  | cons d rest ih =>
    obtain ⟨hd, hrest⟩ := List.forall_mem_cons.mp hdeclarations
    exact .append (.append (.append (.lit rfl) hd) (.lit rfl)) (ih hrest)

theorem plain_printRules {rules : List StyleRule} {indent : String} (hindent : Plain indent)
    (h : ∀ r ∈ rules, Plain r.selector ∧ ∀ d ∈ r.declarations, Plain d) :
    Plain (printRules indent rules) := by
  unfold printRules
  induction rules with
  | nil => exact .lit rfl
  | cons r rest ih =>
    obtain ⟨⟨hselector, hdeclarations⟩, hrest⟩ := List.forall_mem_cons.mp h
    exact .append (plain_styleRule hindent hselector hdeclarations) (ih hrest)

theorem plain_styleRules : ∀ r ∈ styleRules, Plain r.selector ∧ ∀ d ∈ r.declarations, Plain d := by
  simp only [styleRules, List.forall_mem_cons, List.not_mem_nil, false_imp_iff, implies_true,
    and_true]
  and_intros <;> first | exact .lit rfl | exact .append (.lit rfl) (.lit rfl)

theorem plain_narrowStyleRules :
    ∀ r ∈ narrowStyleRules, Plain r.selector ∧ ∀ d ∈ r.declarations, Plain d := by
  simp only [narrowStyleRules, List.forall_mem_cons, List.not_mem_nil, false_imp_iff, implies_true,
    and_true]
  and_intros <;> exact .lit rfl

theorem plain_stylesheet : Plain stylesheet := by
  have hrules : Plain (printRules "  " styleRules) := plain_printRules (.lit rfl) plain_styleRules
  have hnarrow : Plain (printRules "    " narrowStyleRules) :=
    plain_printRules (.lit rfl) plain_narrowStyleRules
  exact .append (.append (.append (.append (.lit rfl) hrules) (.lit rfl)) hnarrow) (.lit rfl)

theorem tidy_metaElement {attributes : List (String × String)} (h : TidyAttributes attributes) :
    (metaElement attributes).Tidy :=
  .voidElement (by decide) h

theorem tidy_pageHead {title : String} (h : Plain title) : (pageHead title).Tidy := by
  refine tidy_element (by decide) .nil ?_
  refine .line (tidy_metaElement (.single rfl (.lit rfl))) ?_
  refine .line (tidy_metaElement (.cons rfl (.lit rfl) (.single rfl (.lit rfl)))) ?_
  refine .line (tidy_metaElement (.cons rfl (.lit rfl) (.single rfl (.lit rfl)))) ?_
  refine .line (tidy_metaElement (.cons rfl (.lit rfl) (.single rfl (.lit rfl)))) ?_
  refine .line (tidy_metaElement (.cons rfl (.lit rfl) (.single rfl (.lit rfl)))) ?_
  refine .line (tidy_element (by decide) .nil (.single (.text h))) ?_
  refine .line (tidy_element (by decide) .nil ?_) (.single tidy_newline)
  exact .single (.text plain_stylesheet)

theorem tidy_previewBar : AllTidy previewBar := by
  have hdot : ∀ {color : String}, Plain color → (previewDot color).Tidy := fun hcolor =>
    tidy_classDiv (.append (.lit rfl) hcolor) .nil
  have hdots : AllTidy [previewDot "red", previewDot "yellow", previewDot "green"] :=
    .cons (hdot (.lit rfl)) (.cons (hdot (.lit rfl)) (.single (hdot (.lit rfl))))
  refine tidy_fragment (tidy_classDiv (.lit rfl) (.cons tidy_newline ?_))
  refine .cons (tidy_classDiv (.lit rfl) hdots) (.cons tidy_newline ?_)
  refine tidy_fragment (tidy_element (by decide) (.single rfl (.lit rfl)) ?_)
  exact .single (.text (.lit rfl))

theorem tidy_preheaderNodes {preheader : String} (h : Plain preheader) :
    AllTidy (preheaderNodes preheader) := by
  refine tidy_fragment (tidy_element (by decide) (.single rfl ?_) (.single (.text h)))
  exact .append (.append (.lit rfl) (.lit rfl)) (.lit rfl)

theorem tidy_unsubscribeLine {o : Options} (hlabel : Plain o.senderLabel)
    (haddress : Plain o.unsubscribeAddress) : (unsubscribeLine o).Tidy := by
  have hlink : TidyAttributes
      [ ("href", "mailto:" ++ o.unsubscribeAddress ++ "?subject=unsubscribe"),
        ("style", "color: #9ca3af;") ] :=
    .cons rfl (.append (.append (.lit rfl) haddress) (.lit rfl)) (.single rfl (.lit rfl))
  refine tidy_element (by decide) (.single rfl (.lit rfl)) (.cons tidy_newline (tidy_fragment ?_))
  refine tidy_element (by decide) (.single rfl (.lit rfl)) (.cons ?_ (.single ?_))
  · exact .text (.append (.append (.lit rfl) hlabel) (.lit rfl))
  · exact tidy_element (by decide) hlink (.single (.text (.lit rfl)))

/-- What is open where the blocks of a page stand, the innermost element first. -/
def blockContainer : List OpenElement :=
  [ ⟨"div", " class=\"email-body\""⟩, ⟨"div", " class=\"email-container\""⟩, ⟨"body", ""⟩,
    ⟨"html", " lang=\"en\""⟩ ]

theorem body_holds {leading : List Node} {o : Options} (hleading : AllTidy leading)
    (hlabel : Plain o.senderLabel) (haddress : Plain o.unsubscribeAddress) :
    Holds (fun ns => [.element "body" []
      [ newline,
        classDiv "email-container" (newline :: (if o.preview then previewBar else [])
          ++ [classDiv "email-body" (newline :: leading ++ ns), newline]),
        newline, unsubscribeLine o, newline ]]) (blockContainer.take 3) := by
  have hbody : TidyAttributes [("class", "email-body")] := .single rfl (.lit rfl)
  have hcontainer : TidyAttributes [("class", "email-container")] := .single rfl (.lit rfl)
  have hbehind : AllTidy [newline, unsubscribeLine o, newline] :=
    .cons tidy_newline (tidy_fragment (tidy_unsubscribeLine hlabel haddress))
  -- from the blocks outwards, one element after the other
  have hblocks := (Holds.self.after (.cons tidy_newline hleading)).element "div" (by decide) hbody
  have hbar := (hblocks.before (.single tidy_newline)).after
    (.cons tidy_newline (.ite (p := o.preview) tidy_previewBar))
  have harea := (hbar.element "div" (by decide) hcontainer).before hbehind
  have hholds := (harea.after (.single tidy_newline)).element "body" (by decide) .nil
  have hopened : blockContainer.take 3
      = [] ++ [⟨"div", Html.printAttributes [("class", "email-body")]⟩]
        ++ [⟨"div", Html.printAttributes [("class", "email-container")]⟩]
        ++ [⟨"body", Html.printAttributes []⟩] := by
    decide
  rw [hopened]
  exact hholds

theorem page_holds {title : String} {preheader : Option String} {o : Options} (htitle : Plain title)
    (hpreheader : PlainIfAny preheader) (hlabel : Plain o.senderLabel)
    (haddress : Plain o.unsubscribeAddress) :
    Holds (fun ns => page title preheader ns o) blockContainer := by
  have hbody : Holds (fun ns => [pageBody preheader ns o]) (blockContainer.take 3) := by
    cases preheader with
    | some preheader =>
      exact body_holds (tidy_preheaderNodes (hpreheader preheader rfl)) hlabel haddress
    | none => exact body_holds .nil hlabel haddress
  have hahead : AllTidy [newline, pageHead title, newline] :=
    .cons tidy_newline (tidy_fragment (tidy_pageHead htitle))
  have hlang : TidyAttributes [("lang", "en")] := .single rfl (.lit rfl)
  have haround := (hbody.before (.single tidy_newline)).after hahead
  have hhtml := haround.element "html" (by decide) hlang
  have hholds := (hhtml.before (.single tidy_newline)).after
    (.cons .doctype (.single tidy_newline))
  have hopened : blockContainer
      = blockContainer.take 3 ++ [⟨"html", Html.printAttributes [("lang", "en")]⟩] := by
    decide
  rw [hopened]
  exact hholds

/-! ## Documents -/

section Documents

variable {d : Document} {o : Options}

theorem plain_document (h : ∀ s ∈ d.shownStrings o, Plain s) :
    Plain d.subject ∧ PlainIfAny d.preheader
      ∧ (∀ b ∈ d.blocks, ∀ s ∈ b.kind.shownStrings, Plain s) ∧ d.data.Plain
      ∧ Branding.PlainIfAny d.branding ∧ Plain o.senderLabel ∧ Plain o.unsubscribeAddress := by
  simp only [Document.shownStrings, List.forall_mem_append, List.forall_mem_cons,
    List.forall_mem_flatMap, List.forall_mem_map, Option.mem_toList] at h
  obtain ⟨⟨⟨⟨⟨hsubject, hpreheader⟩, hblocks⟩, hdata⟩, hbranding⟩, hlabel, haddress, -⟩ := h
  exact ⟨hsubject, hpreheader, hblocks, hdata, hbranding, hlabel, haddress⟩

theorem tidy_fragment_of_mem (hplain : ∀ s ∈ d.shownStrings o, Plain s)
    (hraw : ∀ b ∈ d.blocks, ∀ raw, b.kind = .rawHtml raw → WellNested raw.html) :
    ∀ b ∈ d.blocks, AllTidy (fragment b.kind d.data d.branding) := by
  obtain ⟨-, -, hblocks, hdata, hbranding, -, -⟩ := plain_document hplain
  intro b hb
  exact tidy_of_kind (hblocks b hb) (hraw b hb) hdata hbranding

/-- The markup of blocks of a document, one after the other. -/
def htmlOf (d : Document) (blocks : List Block) : String :=
  joinWith "" (blocks.map fun b => blockHtml b d.data d.branding)

/-- **Nesting.**  If the strings that are put into the markup of a document are plain, and the
    raw markup of its blocks is well nested, then the HTML is well nested, and so is every
    block on its own.  The HTML is the blocks one after the other between an opening that
    leaves the container open and a closing, and the container stays open, as it was opened,
    at every place of every block. -/
theorem html_nested (d : Document) (o : Options) (hplain : ∀ s ∈ d.shownStrings o, Plain s)
    (hraw : ∀ b ∈ d.blocks, ∀ raw, b.kind = .rawHtml raw → WellNested raw.html) :
    WellNested (render d o).html
      ∧ (∀ b ∈ d.blocks, WellNested (blockHtml b d.data d.branding))
      ∧ ∃ opening closing,
          (render d o).html = opening ++ htmlOf d (inRenderOrder d.blocks) ++ closing
            ∧ openAfter opening = some blockContainer
            ∧ ∀ before b after, inRenderOrder d.blocks = before ++ b :: after →
                ∀ front, front <+: (blockHtml b d.data d.branding).toList →
                  ∃ inner, opened? ((opening ++ htmlOf d before).toList ++ front)
                    = some (inner ++ blockContainer) := by
  have hfragments := tidy_fragment_of_mem hplain hraw
  obtain ⟨hsubject, hpreheader, -, hdata, -, hlabel, haddress⟩ := plain_document hplain
  obtain ⟨opening, closing, hprint, hopening, hclosing⟩ := page_holds (plain_resolve hsubject hdata)
    (plain_resolve? hpreheader hdata) hlabel haddress
  have hmem : ∀ b, b ∈ inRenderOrder d.blocks ↔ b ∈ d.blocks :=
    fun b => (inRenderOrder_perm d.blocks).mem_iff
  have hrow : ∀ bs, (∀ b ∈ bs, b ∈ d.blocks) → ∀ x, Reads (htmlOf d bs) x x := by
    intro bs hbs x
    unfold htmlOf
    rw [← printAll_fragments]
    exact AllTidy.reads (.flatMap fun b hb => hfragments b (hbs b hb)) x
  have hhtml : (render d o).html
      = opening ++ htmlOf d (inRenderOrder d.blocks) ++ closing := by
    unfold htmlOf
    rw [← printAll_blockArea]
    exact hprint _
  have hentered : Reads opening [] blockContainer := hopening []
  refine ⟨?_, fun b hb => (hfragments b hb).wellNested, opening, closing, hhtml,
    openAfter_eq_some_iff.mpr hentered, ?_⟩
  · have hblocks := hrow _ (fun b hb => (hmem b).mp hb) blockContainer
    refine openAfter_eq_some_iff.mpr ?_
    rw [hhtml]
    exact (hentered.append hblocks).append (hclosing [])
  · intro before b after hsplit front hfront
    have hin : ∀ a ∈ before ++ b :: after, a ∈ d.blocks := fun a ha =>
      (hmem a).mp (hsplit ▸ ha)
    obtain ⟨hbefore, hrest⟩ := List.forall_mem_append.mp hin
    have hb := (hfragments b (hrest b (.head _))).wellNested
    exact hb.stays_within (hentered.append (hrow before hbefore _)) hfront

/-- A preview with a link, and with raw markup that has an element in it. -/
theorem html_nested_preview :
    let d : Document :=
      { subject := "Hello {name}",
        blocks :=
          [ ⟨"link", 2, .cta { text := some "Book, {name|friend}", link := some "{url|#}" }⟩,
            ⟨"markup", 1, .rawHtml ⟨"<p class='a > b'>One<br>two</p>"⟩⟩ ],
        data := .ofList [("name", "Ada")] }
    let o : Options :=
      { preview := true, senderLabel := "Studio", unsubscribeAddress := "stop@studio.test" }
    WellNested (render d o).html
      ∧ ∀ b ∈ d.blocks, WellNested (blockHtml b d.data d.branding) := by
  intro d o
  have hraw : ∀ b ∈ d.blocks, ∀ raw, b.kind = .rawHtml raw → WellNested raw.html := by
    intro b hb raw hraw
    cases hb with
    | head => cases hraw
    | tail _ hb =>
      cases List.mem_singleton.mp hb
      cases hraw
      decide +kernel
  obtain ⟨hhtml, hblocks, -⟩ := html_nested d o (by decide +kernel) hraw
  exact ⟨hhtml, hblocks⟩

end Documents

end Render

end BlockMail
