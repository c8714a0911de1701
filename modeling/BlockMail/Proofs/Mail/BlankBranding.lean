import BlockMail.Mail.Mailer
import BlockMail.Proofs.Text.Lines

/-! # Blank branding

A blank value of a branding counts as absent.  Everything that is made of a branding depends on two
views of it alone, its texts without the blank ones and its channels that are worth a link.  So a
change that neither view shows is not to be seen in any body or header, and a branding of nothing
but blanks is as good as none.
-/

namespace BlockMail

/-- There is nothing to show: no value, or a blank one. -/
def Text.Vacant (value : Option String) : Prop :=
  ∀ s ∈ value, isBlank s = true

@[simp] theorem Text.vacant_none : Vacant none := nofun

@[simp] theorem Text.vacant_some {s : String} : Vacant (some s) ↔ isBlank s = true := by
  simp [Vacant]

namespace Branding

/-! ## Changes that show nothing -/

/-- The texts of a branding. -/
inductive TextField where
  | businessName
  | brandColor
  | logoUrl
  | phone
  | email
  deriving DecidableEq

namespace TextField

def get : TextField → Branding → Option String
  | businessName, b => b.businessName
  | brandColor, b => b.brandColor
  | logoUrl, b => b.logoUrl
  | phone, b => b.phone
  | email, b => b.email

def set : TextField → Option String → Branding → Branding
  | businessName, value, b => { b with businessName := value }
  | brandColor, value, b => { b with brandColor := value }
  | logoUrl, value, b => { b with logoUrl := value }
  | phone, value, b => { b with phone := value }
  | email, value, b => { b with email := value }

theorem get_set (f g : TextField) (value : Option String) (b : Branding) :
    g.get (f.set value b) = if f = g then value else g.get b := by
  cases f <;> cases g <;> rfl

@[simp] theorem socialChannels_set (f : TextField) (value : Option String) (b : Branding) :
    (f.set value b).socialChannels = b.socialChannels := by
  cases f <;> rfl

end TextField

/-- No channel has an address to link to. -/
def Unlinked (channels : Option (Dict SocialChannel)) : Prop :=
  ∀ d ∈ channels, ∀ e ∈ d.entries, Text.Vacant e.2.url

/-- There is nothing in the branding but blanks. -/
structure Blank (b : Branding) : Prop where
  texts : ∀ f : TextField, Text.Vacant (f.get b)
  channels : Unlinked b.socialChannels

/-- A change of what is blank into something else that is blank. -/
inductive BlankChange : Option Branding → Option Branding → Prop
  | branding {b : Branding} (hblank : b.Blank) : BlankChange none (some b)
  | text (f : TextField) {b : Branding} {value : Option String}
      (hold : Text.Vacant (f.get b)) (hnew : Text.Vacant value) :
      BlankChange (some b) (some (f.set value b))
  | channels {b : Branding} {channels : Option (Dict SocialChannel)}
      (hold : Unlinked b.socialChannels) (hnew : Unlinked channels) :
      BlankChange (some b) (some { b with socialChannels := channels })
  /-- One channel goes, those that can be linked to stay. -/
  | channel (key : String) {b : Branding} {d : Dict SocialChannel}
      (hlisted : b.socialChannels = some d)
      (hold : ∀ e ∈ d.entries, e.1 = key → Text.Vacant e.2.url) :
      BlankChange (some b) (some { b with socialChannels := some (d.erase key) })

/-! ## The two views -/

/-- A text of the branding, unless it is blank. -/
def text? (f : TextField) (branding : Option Branding) : Option String :=
  Text.nonBlank? (branding.bind f.get)

/-- The channels that are worth a link. -/
def linkable (branding : Option Branding) : List (String × SocialChannel) :=
  match branding.bind (·.socialChannels) with
  | none => []
  | some channels => channels.entries.filter fun e => e.2.isLinkable

/-- Two brandings that cannot be told apart by what they show. -/
structure ShowsTheSame (branding branding' : Option Branding) : Prop where
  texts : ∀ f, text? f branding' = text? f branding
  channels : linkable branding' = linkable branding

theorem text?_eq_none {f : TextField} {b : Branding} (h : Text.Vacant (f.get b)) :
    text? f (some b) = none :=
  Text.nonBlank?_eq_none_iff.mpr h

theorem isLinkable_eq_false {channel : SocialChannel} (h : Text.Vacant channel.url) :
    channel.isLinkable = false := by
  rw [SocialChannel.isLinkable, Text.nonBlank?_eq_none_iff.mpr h, Option.isSome_none]

theorem linkable_of_unlinked {b : Branding} (h : Unlinked b.socialChannels) :
    linkable (some b) = [] := by
  simp only [linkable, Option.bind_some]
  cases hchannels : b.socialChannels with
  | none => rfl
  | some d =>
    refine List.filter_eq_nil_iff.mpr fun e he => ?_
    simp [isLinkable_eq_false (h d hchannels e he)]

theorem linkable_erase {key : String} {b : Branding} {d : Dict SocialChannel}
    (hlisted : b.socialChannels = some d)
    (hold : ∀ e ∈ d.entries, e.1 = key → Text.Vacant e.2.url) :
    linkable (some { b with socialChannels := some (d.erase key) }) = linkable (some b) := by
  simp only [linkable, Option.bind_some, hlisted, Dict.erase, List.filter_filter]
  apply List.filter_congr
  intro e he
  by_cases hkey : e.1 = key
  · simp [hkey, isLinkable_eq_false (hold e he hkey)]
  · simp [hkey]

theorem BlankChange.showsTheSame {branding branding' : Option Branding}
    (h : BlankChange branding branding') : ShowsTheSame branding branding' := by
  cases h with
  | branding hblank =>
    exact ⟨fun f => text?_eq_none (hblank.texts f), linkable_of_unlinked hblank.channels⟩
  | @text f b value hold hnew =>
    refine ⟨fun g => ?_, ?_⟩
    · by_cases hfield : f = g
      · subst hfield
        rw [text?_eq_none hold, text?_eq_none]
        rwa [TextField.get_set, if_pos rfl]
      · simp only [text?, Option.bind_some, TextField.get_set, if_neg hfield]
    · simp only [linkable, Option.bind_some, TextField.socialChannels_set]
  | channels hold hnew =>
    refine ⟨fun f => ?_, ?_⟩
    · cases f <;> rfl
    · rw [linkable_of_unlinked hold, linkable_of_unlinked hnew]
  | channel key hlisted hold =>
    refine ⟨fun f => ?_, linkable_erase hlisted hold⟩
    cases f <;> rfl

end Branding

/-! ## What is made of a branding -/

namespace Render

theorem linkColor_eq_text? (branding : Option Branding) :
    linkColor branding = (Branding.text? .brandColor branding).getD Branding.defaultColor := by
  cases branding <;> rfl

theorem shownChannels_eq_linkable (b : SocialLinksBlock) (branding : Option Branding) :
    shownChannels b branding
      = ((Branding.linkable branding).filter fun e => b.isVisible e.1).mergeSort
          fun x y => x.2.position ≤ y.2.position := by
  cases branding with
  | none => simp [shownChannels, Branding.linkable]
  | some branding =>
    simp only [shownChannels, Branding.visibleChannels, Branding.linkable, Option.bind_some]
    cases branding.socialChannels with
    | none => simp
    | some channels => simp only [List.filter_filter, Bool.and_comm]

end Render

/-- The mailer trims a name or an address before it looks whether anything is there; that is to
    look for a text that is not blank. -/
theorem Mailer.trimmed?_eq_nonBlank? (value : Option String) :
    trimmed? value = (Text.nonBlank? value).map Text.trim := by
  cases value with
  | none => rfl
  | some s =>
    cases hblank : Text.isBlank s with
    | true =>
      have htrim : Text.trim s = "" := Text.trim_eq_empty_iff.mpr hblank
      simp [trimmed?, Text.present?, Text.nonBlank?, Option.filter, hblank, htrim]
    | false =>
      have htrim : Text.trim s ≠ "" := by simp [Text.trim_eq_empty_iff, hblank]
      simp [trimmed?, Text.present?, Text.nonBlank?, Option.filter, hblank, htrim]

/-- The request for a message under another branding. -/
def SendRequest.branded (request : SendRequest) (branding : Option Branding) : SendRequest :=
  { request with document := { request.document with branding } }

theorem Mailer.rendering_branded (settings : MailSettings) (request : SendRequest)
    (branding : Option Branding) :
    rendering settings (request.branded branding)
      = Render.render { withSubject settings request.document with branding }
          (options settings) := by
  unfold rendering withSubject SendRequest.branded
  split <;> rfl

namespace Branding.ShowsTheSame

open Render Mailer

variable {branding branding' : Option Branding}

theorem footerIdentity_eq (h : ShowsTheSame branding branding') (c : Context) :
    footerIdentity branding' c = footerIdentity branding c := by
  have hname : branded? branding' (·.businessName) = branded? branding (·.businessName) :=
    h.texts .businessName
  have hphone : branded? branding' (·.phone) = branded? branding (·.phone) := h.texts .phone
  have hemail : branded? branding' (·.email) = branded? branding (·.email) := h.texts .email
  have hlogo : branded? branding' (·.logoUrl) = branded? branding (·.logoUrl) := h.texts .logoUrl
  simp only [footerIdentity, hname, hphone, hemail, hlogo]

theorem fragment_eq (h : ShowsTheSame branding branding') (kind : BlockKind) (c : Context) :
    fragment kind c branding' = fragment kind c branding := by
  cases kind with
  | sessionDetails b => simp only [fragment, sessionFragment, linkColor_eq_text?, h.texts]
  | socialLinks b => simp only [fragment, socialFragment, shownChannels_eq_linkable, h.channels]
  | footer b => simp only [fragment, footerFragment, h.footerIdentity_eq]
  | _ => rfl

theorem textForm?_eq (h : ShowsTheSame branding branding') (kind : BlockKind) (c : Context) :
    textForm? kind c branding' = textForm? kind c branding := by
  cases kind with
  | footer b => simp only [textForm?, footerForm, h.footerIdentity_eq]
  | _ => rfl

theorem render_eq (h : ShowsTheSame branding branding') (d : Document) (o : Options) :
    render { d with branding := branding' } o = render { d with branding } o := by
  simp only [render, documentPage, blockArea, plainText, h.fragment_eq, h.textForm?_eq]

theorem rendering_eq (h : ShowsTheSame branding branding') (settings : MailSettings)
    (request : SendRequest) :
    rendering settings (request.branded branding')
      = rendering settings (request.branded branding) := by
  simp only [rendering_branded, h.render_eq]

theorem senderName_eq (h : ShowsTheSame branding branding') (settings : MailSettings) :
    senderName settings branding' = senderName settings branding := by
  have hname : Text.nonBlank? (branding'.bind (·.businessName))
      = Text.nonBlank? (branding.bind (·.businessName)) := h.texts .businessName
  simp only [senderName, trimmed?_eq_nonBlank?, hname]

theorem replyTo_eq (h : ShowsTheSame branding branding') (settings : MailSettings) :
    replyTo settings branding' = replyTo settings branding := by
  have hemail : Text.nonBlank? (branding'.bind (·.email))
      = Text.nonBlank? (branding.bind (·.email)) := h.texts .email
  simp only [replyTo, trimmed?_eq_nonBlank?, hemail]

theorem compose_eq (h : ShowsTheSame branding branding') (settings : MailSettings)
    (request : SendRequest) (rendered : Message) :
    compose settings (request.branded branding') rendered
      = compose settings (request.branded branding) rendered := by
  simp only [compose, SendRequest.branded, h.senderName_eq, h.replyTo_eq]
  rfl

theorem send_eq (h : ShowsTheSame branding branding') {m : Type → Type} [Monad m]
    (mailer : Mailer m) (request : SendRequest) :
    mailer.send (request.branded branding') = mailer.send (request.branded branding) := by
  have hfault : fault? (request.branded branding') = fault? (request.branded branding) := rfl
  have hconsult : mailer.consult (request.branded branding')
      = mailer.consult (request.branded branding) := rfl
  simp only [send, hfault, hconsult, h.rendering_eq, h.compose_eq]

end Branding.ShowsTheSame

/-! ## Blanks count as absent -/

open Render (fragment textForm? render)

/-- **Blank branding.**  Where blanks of a branding come, go or turn into other blanks, every block
    looks and reads the same, and with it every rendered document; every mailer does the same with
    a request, and hands the same message over. -/
theorem blank_branding_as_none {branding branding' : Option Branding}
    (h : Branding.BlankChange branding branding') :
    (∀ kind c, fragment kind c branding' = fragment kind c branding
        ∧ textForm? kind c branding' = textForm? kind c branding)
      ∧ (∀ (d : Document) o,
        render { d with branding := branding' } o = render { d with branding } o)
      ∧ (∀ settings (request : SendRequest),
        Mailer.compose settings (request.branded branding')
            (Mailer.rendering settings (request.branded branding'))
          = Mailer.compose settings (request.branded branding)
            (Mailer.rendering settings (request.branded branding)))
      ∧ ∀ (m : Type → Type) [Monad m] (mailer : Mailer m) (request : SendRequest),
        mailer.send (request.branded branding') = mailer.send (request.branded branding) := by
  have hsame := h.showsTheSame
  refine ⟨fun kind c => ⟨hsame.fragment_eq kind c, hsame.textForm?_eq kind c⟩, hsame.render_eq,
    fun settings request => ?_, fun m _ mailer request => hsame.send_eq mailer request⟩
  rw [hsame.rendering_eq, hsame.compose_eq]

/-- A branding that was filled in with the space bar. -/
def spaces : Branding where
  businessName := some "  "
  brandColor := some ""
  phone := some "\t"
  socialChannels := some (Dict.ofList [("web", { name := some "Web", url := some " " })])

theorem spaces_blank : spaces.Blank := by
  have hspaces : Text.isBlank "  " = true := by decide
  have htab : Text.isBlank "\t" = true := by decide
  have hspace : Text.isBlank " " = true := by decide
  refine ⟨fun f => ?_, fun d hd e he => ?_⟩
  · cases f <;> simp [Branding.TextField.get, spaces, hspaces, htab]
  · obtain rfl := Option.mem_some.mp hd
    obtain rfl := List.mem_singleton.mp (Dict.mem_ofList he)
    exact Text.vacant_some.mpr hspace

theorem spaces_as_none :
    Branding.BlankChange none (some spaces)
      ∧ (∀ (d : Document) o, render { d with branding := some spaces } o
        = render { d with branding := none } o)
      ∧ ∀ (m : Type → Type) [Monad m] (mailer : Mailer m) (request : SendRequest),
        mailer.send (request.branded (some spaces)) = mailer.send (request.branded none) := by
  have hchange : Branding.BlankChange none (some spaces) := .branding spaces_blank
  obtain ⟨-, hrender, -, hsend⟩ := blank_branding_as_none hchange
  exact ⟨hchange, hrender, hsend⟩

end BlockMail
