import BlockMail.Proofs.Placeholder.Concatenation
import BlockMail.Proofs.Render.Body
import Mathlib.Data.List.Basic

/-! # What the context can influence

A rendering looks up the keys of the tokens in the templates of the document, and the keys of
the session, the project and the business.  Contexts with the same values for these render
alike, and an absent key has the same value as one that is bound to the empty string: none.
-/

namespace BlockMail

open Placeholder (Segment segments)

/-! ## What is looked up -/

/-- The keys that blocks look up on their own. -/
def reservedKeys : List String :=
  [ "session_name", "session_type", "session_duration", "session_status", "session_date",
    "session_time", "session_location", "session_meeting_url", "session_notes",
    "project_name", "project_package_name",
    "business_name", "business_phone", "business_email" ]

def Placeholder.Segment.key? : Segment → Option String
  | .token t => some t.key
  | .literal _ => none

/-- The keys of the tokens in a template. -/
def Placeholder.tokenKeys (template : String) : List String :=
  (segments template.toList).filterMap Segment.key?

/-- The texts of a block that are filled in. -/
def BlockKind.templates : BlockKind → List String
  | .text b => [b.content]
  | .header b => b.title.toList ++ b.tagline.toList
  | .cta b => b.text.toList ++ b.link.toList ++ b.url.toList
  | .image b => b.caption.toList ++ b.alt.toList
  | .sessionDetails b => b.customLabel.toList ++ b.customNotes.toList
  | .footer b => b.customText.toList
  | .divider _ | .socialLinks _ | .rawHtml _ => []

/-- The texts of a document that are filled in. -/
def Document.templates (d : Document) : List String :=
  d.subject :: d.preheader.toList ++ d.blocks.flatMap fun b => b.kind.templates

/-- The keys of the tokens in a document. -/
def Document.keys (d : Document) : List String := d.templates.flatMap Placeholder.tokenKeys

namespace Context

/-- The contexts have the same values for the keys. -/
def Agree (c₁ c₂ : Context) (keys : List String) : Prop := ∀ k ∈ keys, c₁.get? k = c₂.get? k

theorem getNonBlank?_eq (c : Context) (key : String) :
    c.getNonBlank? key = Text.nonBlank? (c.get? key) := by
  unfold getNonBlank? get?
  cases Dict.get? c key with
  | none => rfl
  | some s =>
    by_cases h : s = ""
    · subst h
      rfl
    · have hpresent : Text.present? (some s) = some s := Text.present?_eq_some_iff.mpr ⟨rfl, h⟩
      rw [hpresent]

theorem get?_insert (c : Context) (k k' v : String) :
    get? (c.insert k v) k' = if k = k' then Text.present? (some v) else c.get? k' := by
  unfold get?
  rw [Dict.get?_insert]
  split <;> rfl

theorem get?_erase (c : Context) (k k' : String) :
    get? (c.erase k) k' = if k = k' then none else c.get? k' := by
  unfold get?
  rw [Dict.get?_erase]
  split <;> rfl

end Context

end BlockMail

namespace BlockMail.Placeholder

open Context (Agree)

variable {c₁ c₂ : Context}

/-! ## Templates -/

theorem value?_congr {t : Token} (h : c₁.get? t.key = c₂.get? t.key) :
    t.value? c₁ = t.value? c₂ := by
  unfold Token.value?
  rw [Context.getNonBlank?_eq, Context.getNonBlank?_eq, h]

theorem resolveKey_congr {key : String} (h : c₁.get? key = c₂.get? key) (fallback : String) :
    resolveKey key fallback c₁ = resolveKey key fallback c₂ := by
  unfold resolveKey
  rw [value?_congr h]

/-- What a template becomes depends on the keys of its tokens alone. -/
theorem resolve_congr {template : String} (h : Agree c₁ c₂ (tokenKeys template)) :
    resolve template c₁ = resolve template c₂ := by
  unfold resolve
  congr 1
  refine List.flatMap_congr fun s hs => ?_
  cases s with
  | literal c => rfl
  | token t =>
    have hkey : t.key ∈ tokenKeys template := List.mem_filterMap.mpr ⟨.token t, hs, rfl⟩
    show ((t.value? c₁).getD t.written).toList = ((t.value? c₂).getD t.written).toList
    rw [value?_congr (h t.key hkey)]

theorem tokenKeys_of_notMem {template : String} (h : '\x7b' ∉ template.toList) :
    tokenKeys template = [] := by
  have hnone : ∀ t n, ¬ Occurs t n template.toList := fun t n ht => h ht.braces_mem.1
  unfold tokenKeys
  rw [segments_of_no_token hnone, List.filterMap_map, List.filterMap_eq_nil_iff]
  intro c hc
  rfl

theorem exists_occurs_of_mem_tokenKeys {template key : String} (h : key ∈ tokenKeys template) :
    ∃ t n, Occurs t n template.toList ∧ t.key = key := by
  obtain ⟨s, hs, hkey⟩ := List.mem_filterMap.mp h
  cases s with
  | literal => cases hkey
  | token t =>
    obtain ⟨n, hn⟩ := exists_occurs_of_mem_segments hs
    exact ⟨t, n, hn, Option.some.inj hkey⟩

theorem resolve?_congr {template : Option String}
    (h : ∀ s ∈ template, resolve s c₁ = resolve s c₂) :
    resolve? template c₁ = resolve? template c₂ :=
  Option.map_congr fun s hs => h s (Text.present?_eq_some_iff.mp hs).1

end BlockMail.Placeholder

namespace BlockMail.Render

open Context (Agree)
open Placeholder (resolve tokenKeys)

variable {c₁ c₂ : Context}

/-! ## Values -/

theorem possibleRows_congr (b : SessionDetailsBlock) (hreserved : Agree c₁ c₂ reservedKeys)
    (hnotes : ∀ s ∈ b.customNotes, resolve s c₁ = resolve s c₂) :
    possibleRows b c₁ = possibleRows b c₂ := by
  have hrow : ∀ key ∈ reservedKeys, ∀ label fallback,
      keyRow label key fallback c₁ = keyRow label key fallback c₂ := by
    intro key hkey label fallback
    unfold keyRow
    rw [Placeholder.resolveKey_congr (hreserved key hkey)]
  have hblank : ∀ key ∈ reservedKeys, c₁.getNonBlank? key = c₂.getNonBlank? key := by
    intro key hkey
    rw [Context.getNonBlank?_eq, Context.getNonBlank?_eq, hreserved key hkey]
  have hmeeting : meetingRow b c₁ = meetingRow b c₂ := by
    unfold meetingRow
    rw [hblank "session_meeting_url" (by decide)]
  have hnotes : sessionNotes b c₁ = sessionNotes b c₂ := by
    unfold sessionNotes
    rw [hblank "session_notes" (by decide)]
    split
    · next s hs => exact hnotes s (Text.nonBlank?_eq_some_iff.mp hs).1
    · rfl
  unfold possibleRows
  rw [hmeeting, hnotes, hrow "session_name" (by decide), hrow "session_type" (by decide),
    hrow "session_duration" (by decide), hrow "session_status" (by decide),
    hrow "session_date" (by decide), hrow "session_time" (by decide),
    hrow "session_location" (by decide), hrow "project_name" (by decide),
    hrow "project_package_name" (by decide)]

theorem footerIdentity_congr (branding : Option Branding) (h : Agree c₁ c₂ reservedKeys) :
    footerIdentity branding c₁ = footerIdentity branding c₂ := by
  unfold footerIdentity
  rw [h "business_name" (by decide), h "business_phone" (by decide),
    h "business_email" (by decide)]

theorem sessionHeading_congr {b : SessionDetailsBlock}
    (h : ∀ s ∈ b.customLabel, resolve s c₁ = resolve s c₂) :
    sessionHeading b c₁ = sessionHeading b c₂ := by
  unfold sessionHeading
  rw [Option.map_congr fun s hs => h s (Text.nonBlank?_eq_some_iff.mp hs).1]

theorem headerTitle?_congr {b : HeaderBlock} (h : ∀ s ∈ b.title, resolve s c₁ = resolve s c₂) :
    headerTitle? b c₁ = headerTitle? b c₂ :=
  Option.map_congr fun s hs => h s (Text.nonBlank?_eq_some_iff.mp hs).1

theorem ctaLabel_congr {b : CtaBlock} (h : ∀ s ∈ b.text, resolve s c₁ = resolve s c₂) :
    ctaLabel b c₁ = ctaLabel b c₂ := by
  unfold ctaLabel
  cases hs : Text.present? b.text with
  | some s => exact h s (Text.present?_eq_some_iff.mp hs).1
  | none =>
    refine Placeholder.resolve_congr fun k hk => ?_
    rw [Option.getD_none, Placeholder.tokenKeys_of_notMem (by decide)] at hk
    cases hk

theorem ctaHref?_congr {b : CtaBlock} (hlink : ∀ s ∈ b.link, resolve s c₁ = resolve s c₂)
    (hurl : ∀ s ∈ b.url, resolve s c₁ = resolve s c₂) : ctaHref? b c₁ = ctaHref? b c₂ := by
  unfold ctaHref?
  refine Option.map_congr fun s hs => ?_
  rcases Option.or_eq_some_iff.mp hs with hs | ⟨-, hs⟩
  · exact hlink s (Text.present?_eq_some_iff.mp hs).1
  · exact hurl s (Text.present?_eq_some_iff.mp hs).1

/-! ## Blocks -/

/-- What a block shows depends on its templates and the reserved keys. -/
theorem block_congr (kind : BlockKind) (branding : Option Branding)
    (hreserved : Agree c₁ c₂ reservedKeys)
    (h : ∀ s ∈ kind.templates, resolve s c₁ = resolve s c₂) :
    fragment kind c₁ branding = fragment kind c₂ branding
      ∧ textForm? kind c₁ branding = textForm? kind c₂ branding := by
  have hfield : ∀ {o : Option String}, (∀ s ∈ o.toList, resolve s c₁ = resolve s c₂) →
      ∀ s ∈ o, resolve s c₁ = resolve s c₂ := fun ho s hs => ho s (Option.mem_toList.mpr hs)
  cases kind with
  | text b =>
    have hcontent := h b.content (.head _)
    simp only [fragment, textForm?, textFragment, textLines, textForm, hcontent, and_self]
  | header b =>
    obtain ⟨htitle, htagline⟩ := List.forall_mem_append.mp h
    have htitle := headerTitle?_congr (hfield htitle)
    have htagline : headerTagline? b c₁ = headerTagline? b c₂ :=
      Placeholder.resolve?_congr (hfield htagline)
    simp only [fragment, textForm?, headerFragment, headerForm?, headerLines, htitle, htagline,
      and_self]
  | cta b =>
    obtain ⟨hshown, hurl⟩ := List.forall_mem_append.mp h
    obtain ⟨htext, hlink⟩ := List.forall_mem_append.mp hshown
    have hlabel := ctaLabel_congr (hfield htext)
    have hhref := ctaHref?_congr (hfield hlink) (hfield hurl)
    simp only [fragment, textForm?, ctaFragment, ctaForm, hlabel, hhref, and_self]
  | image b =>
    obtain ⟨hcaption, halt⟩ := List.forall_mem_append.mp h
    have hcaption : imageCaption? b c₁ = imageCaption? b c₂ :=
      Placeholder.resolve?_congr (hfield hcaption)
    have halt : Placeholder.resolve? b.alt c₁ = Placeholder.resolve? b.alt c₂ :=
      Placeholder.resolve?_congr (hfield halt)
    simp only [fragment, textForm?, imageFragment, imageAlt, hcaption, halt, and_self]
  | sessionDetails b =>
    obtain ⟨hlabel, hnotes⟩ := List.forall_mem_append.mp h
    have hheading := sessionHeading_congr (hfield hlabel)
    have hrows := possibleRows_congr b hreserved (hfield hnotes)
    simp only [fragment, textForm?, sessionFragment, sessionForm, sessionRows, hheading, hrows,
      and_self]
  | footer b =>
    have htext : footerText? b c₁ = footerText? b c₂ := Placeholder.resolve?_congr (hfield h)
    have hidentity := footerIdentity_congr branding hreserved
    simp only [fragment, textForm?, footerFragment, footerForm, htext, hidentity, and_self]
  | divider b => exact ⟨rfl, rfl⟩
  | socialLinks b => exact ⟨rfl, rfl⟩
  | rawHtml b => exact ⟨rfl, rfl⟩

/-! ## Messages -/

theorem render_congr {d : Document} (h : Agree c₁ c₂ (d.keys ++ reservedKeys)) (o : Options) :
    render { d with data := c₁ } o = render { d with data := c₂ } o := by
  have htemplate : ∀ s ∈ d.templates, resolve s c₁ = resolve s c₂ := fun s hs =>
    Placeholder.resolve_congr fun k hk =>
      h k (List.mem_append_left _ (List.mem_flatMap.mpr ⟨s, hs, hk⟩))
  have hreserved : Agree c₁ c₂ reservedKeys := fun k hk => h k (List.mem_append_right _ hk)
  have hsubject := htemplate d.subject (.head _)
  have hpreheader : Placeholder.resolve? d.preheader c₁ = Placeholder.resolve? d.preheader c₂ :=
    Placeholder.resolve?_congr fun s hs => htemplate s <|
      List.mem_append_left _ (.tail _ (Option.mem_toList.mpr hs))
  have hblock : ∀ b ∈ inRenderOrder d.blocks,
      fragment b.kind c₁ d.branding = fragment b.kind c₂ d.branding
        ∧ textForm? b.kind c₁ d.branding = textForm? b.kind c₂ d.branding := by
    intro b hb
    have hmem : b ∈ d.blocks := (inRenderOrder_perm d.blocks).mem_iff.mp hb
    refine block_congr b.kind d.branding hreserved fun s hs => htemplate s ?_
    exact List.mem_append_right _ (List.mem_flatMap.mpr ⟨b, hmem, hs⟩)
  have harea : blockArea d.blocks c₁ d.branding = blockArea d.blocks c₂ d.branding :=
    List.flatMap_congr fun b hb => (hblock b hb).1
  have htext : plainText d.blocks c₁ d.branding = plainText d.blocks c₂ d.branding := by
    unfold plainText
    rw [List.filterMap_congr fun b hb => by rw [(hblock b hb).2]]
  simp only [render, documentPage, hsubject, hpreheader, harea, htext]

/-- **What the context can influence.**  A message depends on the values of the reserved keys
    and of the keys of tokens in the document.  It does not matter whether a key without a value
    is bound to the empty string or not at all, and other keys do not matter. -/
theorem render_context (d : Document) (o : Options) :
    (∀ k ∈ d.keys, ∃ s ∈ d.templates, ∃ t n, Placeholder.Occurs t n s.toList ∧ t.key = k)
    ∧ (∀ c₁ c₂ : Context, Agree c₁ c₂ (d.keys ++ reservedKeys) →
      render { d with data := c₁ } o = render { d with data := c₂ } o)
    ∧ (∀ (c : Context) (k : String), c.get? k = none →
        render { d with data := c.insert k "" } o = render { d with data := c } o
        ∧ render { d with data := c.erase k } o = render { d with data := c } o)
    ∧ ∀ (c : Context) (k : String), k ∉ d.keys ++ reservedKeys →
        (∀ v, render { d with data := c.insert k v } o = render { d with data := c } o)
        ∧ render { d with data := c.erase k } o = render { d with data := c } o := by
  refine ⟨fun k hk => ?_, fun c₁ c₂ h => render_congr h o, fun c k h => ⟨?_, ?_⟩,
    fun c k h => ⟨fun v => ?_, ?_⟩⟩
  · obtain ⟨s, hs, hkey⟩ := List.mem_flatMap.mp hk
    exact ⟨s, hs, Placeholder.exists_occurs_of_mem_tokenKeys hkey⟩
  · refine render_congr (fun k' _ => ?_) o
    by_cases hk : k = k'
    · rw [Context.get?_insert, if_pos hk, ← hk, h]
      rfl
    · rw [Context.get?_insert, if_neg hk]
  · refine render_congr (fun k' _ => ?_) o
    by_cases hk : k = k'
    · rw [Context.get?_erase, if_pos hk, ← hk, h]
    · rw [Context.get?_erase, if_neg hk]
  · refine render_congr (fun k' hmem => ?_) o
    have hk : k ≠ k' := fun hk => h (hk ▸ hmem)
    rw [Context.get?_insert, if_neg hk]
  · refine render_congr (fun k' hmem => ?_) o
    have hk : k ≠ k' := fun hk => h (hk ▸ hmem)
    rw [Context.get?_erase, if_neg hk]

def reminder : Document where
  subject := "Yoga with \x7bteacher|us\x7d"
  data := Dict.ofList [("teacher", "Ann"), ("room", "Loft")]

theorem render_context_reminder :
    let other := Dict.ofList [("teacher", "Ann"), ("session_notes", "")]
    Agree reminder.data other (reminder.keys ++ reservedKeys)
      ∧ ∀ o, render reminder o = render { reminder with data := other } o := by
  intro other
  have hkeys : reminder.keys = ["teacher"] := by decide +kernel
  have h : Agree reminder.data other (reminder.keys ++ reservedKeys) := by
    rw [hkeys]
    unfold Agree
    decide
  exact ⟨h, fun o => (render_context reminder o).2.1 _ _ h⟩

end BlockMail.Render
