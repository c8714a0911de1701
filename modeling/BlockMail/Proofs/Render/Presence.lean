import BlockMail.Proofs.Placeholder.Presence
import BlockMail.Render.Message

/-! # What is given is shown

Whether a text is there to be shown is asked of its template, before it is filled in.  Filling in
leaves something of every template that is not empty, so what is shown is not empty either:
`Kept`, for every text that is asked for in this way.
-/

namespace BlockMail.Render

open Placeholder (Token Cut AlwaysFilled PhoneValue resolve resolve?)

/-- A text that is asked for by a test is shown just if it passes, and then something is shown. -/
structure Kept (test : String → Prop) (template shown : Option String) : Prop where
  shown_iff : (∃ s, shown = some s) ↔ ∃ s ∈ template, test s
  ne_empty : ∀ s ∈ shown, s ≠ ""

theorem resolve_ne_empty {template : String} (h : template ≠ "") (c : Context) :
    resolve template c ≠ "" :=
  mt Placeholder.resolve_eq_empty_iff.mp h

theorem kept_filter {test : String → Prop} {passed template : Option String}
    (hpassed : ∀ s, passed = some s ↔ template = some s ∧ test s) (htest : ∀ s, test s → s ≠ "")
    (c : Context) : Kept test template (passed.map (resolve · c)) := by
  constructor
  · simp only [Option.map_eq_some_iff, hpassed, Option.mem_def]
    constructor
    · rintro ⟨_, s, hs, rfl⟩
      exact ⟨s, hs⟩
    · rintro ⟨s, hs⟩
      exact ⟨_, s, hs, rfl⟩
  · intro r hr
    obtain ⟨s, hs, rfl⟩ := Option.map_eq_some_iff.mp hr
    exact resolve_ne_empty (htest s ((hpassed s).mp hs).2) c

theorem kept_present (template : Option String) (c : Context) :
    Kept (· ≠ "") template (resolve? template c) :=
  kept_filter (fun _ => Text.present?_eq_some_iff) (fun _ h => h) c

theorem kept_nonBlank (template : Option String) (c : Context) :
    Kept (Text.isBlank · = false) template ((Text.nonBlank? template).map (resolve · c)) :=
  kept_filter (fun _ => Text.nonBlank?_eq_some_iff) (fun _ => Placeholder.ne_empty_of_isBlank) c

theorem Kept.getD_ne_empty {test : String → Prop} {template shown : Option String}
    (h : Kept test template shown) {usual : String} (husual : usual ≠ "") :
    shown.getD usual ≠ "" := by
  cases shown with
  | none => exact husual
  | some s => exact h.ne_empty s rfl

/-- The texts of blocks, and the line before them, are shown when they are given. -/
structure ShowsGiven (c : Context) : Prop where
  tagline (b : HeaderBlock) : Kept (· ≠ "") b.tagline (headerTagline? b c)
  title (b : HeaderBlock) : Kept (Text.isBlank · = false) b.title (headerTitle? b c)
  label (b : CtaBlock) : ctaLabel b c ≠ ""
  /-- The target of a call to action is the first of two that is given. -/
  link (b : CtaBlock) : Kept (· ≠ "") ((Text.present? b.link).or b.url) (ctaHref? b c)
  caption (b : ImageBlock) : Kept (· ≠ "") b.caption (imageCaption? b c)
  alt (b : ImageBlock) : imageAlt b c ≠ ""
  heading (b : SessionDetailsBlock) : sessionHeading b c ≠ ""
  notes (b : SessionDetailsBlock) : sessionNotes b c ≠ ""
  footer (b : FooterBlock) : Kept (· ≠ "") b.customText (footerText? b c)
  preheader (template : Option String) : Kept (· ≠ "") template (resolve? template c)

theorem ctaLabel_ne_empty (b : CtaBlock) (c : Context) : ctaLabel b c ≠ "" := by
  refine resolve_ne_empty ?_ c
  cases hlabel : Text.present? b.text with
  | none => decide
  | some s => exact (Text.present?_eq_some_iff.mp hlabel).2

theorem ctaHref?_kept (b : CtaBlock) (c : Context) :
    Kept (· ≠ "") ((Text.present? b.link).or b.url) (ctaHref? b c) := by
  refine kept_filter (fun s => ?_) (fun _ h => h) c
  cases hlink : Text.present? b.link with
  | none => simpa using Text.present?_eq_some_iff
  | some target =>
    have htarget := (Text.present?_eq_some_iff.mp hlink).2
    simp only [Option.some_or, Option.some.injEq, iff_self_and]
    rintro rfl
    exact htarget

theorem imageAlt_ne_empty (b : ImageBlock) (c : Context) : imageAlt b c ≠ "" := by
  have hcaption : (imageCaption? b c).getD "Image" ≠ "" :=
    (kept_present b.caption c).getD_ne_empty (by decide)
  exact (kept_present b.alt c).getD_ne_empty hcaption

theorem sessionNotes_ne_empty (b : SessionDetailsBlock) (c : Context) : sessionNotes b c ≠ "" := by
  unfold sessionNotes
  cases hnotes : Text.nonBlank? b.customNotes with
  | some notes =>
    exact resolve_ne_empty
      (Placeholder.ne_empty_of_isBlank (Text.nonBlank?_eq_some_iff.mp hnotes).2) c
  | none =>
    cases hvalue : c.getNonBlank? "session_notes" with
    | none =>
      show noValue ≠ ""
      decide
    | some v => exact Placeholder.ne_empty_of_isBlank (Text.nonBlank?_eq_some_iff.mp hvalue).2

theorem shows_given (c : Context) : ShowsGiven c where
  tagline b := kept_present b.tagline c
  title b := kept_nonBlank b.title c
  label b := ctaLabel_ne_empty b c
  link b := ctaHref?_kept b c
  caption b := kept_present b.caption c
  alt b := imageAlt_ne_empty b c
  heading b := (kept_nonBlank b.customLabel c).getD_ne_empty (by decide)
  notes b := sessionNotes_ne_empty b c
  footer b := kept_present b.customText c
  preheader template := kept_present template c

/-- **Nothing becomes nothing.**  No token stands for the empty string.  The place stands for
    something specific or a dash, and a telephone number for its value, its fallback or a dash, so
    tokens with these keys never stay in a template.  A template becomes empty only if it is empty,
    and what is given to be shown is still there once it is filled in. -/
theorem nothing_vanishes (c : Context) :
    (∀ t : Token, t.value? c ≠ some "")
      ∧ (∀ fallback, ∃ v, Token.value? ⟨"session_location", fallback⟩ c = some v
        ∧ Text.isBlank v = false ∧ v ≠ "Studio" ∧ v ≠ "TBD")
      ∧ (∀ key, "phone".toList <:+: key.toList → ∀ fallback,
        ∃ v, Token.value? ⟨key, fallback⟩ c = some v ∧ PhoneValue key fallback c v)
      ∧ (∀ template, ∃ cut : Cut, cut.Cuts template.toList
        ∧ resolve template c = String.ofList (cut.filled c)
        ∧ ∀ p ∈ cut.tokens, AlwaysFilled p.1.key → ∃ v, p.1.value? c = some v)
      ∧ (∀ template, resolve template c = "" ↔ template = "")
      ∧ ShowsGiven c := by
  refine ⟨fun t => Placeholder.value?_ne_empty t c,
    fun fallback => Placeholder.location_value fallback c,
    fun key hkey fallback => Placeholder.phone_value hkey fallback c, fun template => ?_,
    fun template => Placeholder.resolve_eq_empty_iff, shows_given c⟩
  refine ⟨.ofSegments (Placeholder.segments template.toList), Cut.cuts_iff.mpr rfl, ?_,
    fun p _ hkey => hkey.exists_value c⟩
  rw [Cut.filled_ofSegments]
  rfl

/-- A number and a place that were left blank. -/
def leftBlank : Context := Dict.ofList [("office_phone", " "), ("session_location", "TBD")]

theorem nothing_vanishes_leftBlank :
    "phone".toList <:+: "office_phone".toList
      ∧ (∃ v, Token.value? ⟨"office_phone", some "us"⟩ leftBlank = some v
        ∧ PhoneValue "office_phone" (some "us") leftBlank v)
      ∧ AlwaysFilled "session_location"
      ∧ resolve "Call \x7boffice_phone|us\x7d at \x7bsession_location|home\x7d" leftBlank ≠ "" := by
  obtain ⟨-, -, hphone, -, hempty, -⟩ := nothing_vanishes leftBlank
  have hkey : "phone".toList <:+: "office_phone".toList := ⟨"office_".toList, [], by decide⟩
  exact ⟨hkey, hphone _ hkey _, .inl rfl, mt (hempty _).mp (by decide)⟩

end BlockMail.Render
