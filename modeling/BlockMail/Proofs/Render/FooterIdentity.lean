import BlockMail.Proofs.Render.Markup
import BlockMail.Proofs.Text.Lines
import BlockMail.Render.PlainText

/-! # Who a footer is from

Name, telephone number and e-mail address of a footer are each taken from the first source that has
one.  A blank value of the branding counts as none, but a value of the context only if it is empty:
so a footer shows a blank where the context has one and the branding has nothing, `LeftBlank`, and
nowhere else.
-/

namespace BlockMail

namespace Text

theorem isBlank_chosen_iff {first second : Option String} {usual : String}
    (husual : isBlank usual = false) :
    isBlank (((nonBlank? first).or (present? second)).getD usual) = true
      ↔ nonBlank? first = none ∧ ∃ v, present? second = some v ∧ isBlank v = true := by
  cases hfirst : nonBlank? first with
  | some v => simp [(nonBlank?_eq_some_iff.mp hfirst).2]
  | none => cases present? second <;> simp [husual]

theorem chosen_ne_empty {first second : Option String} {usual : String} (husual : usual ≠ "") :
    ((nonBlank? first).or (present? second)).getD usual ≠ "" := by
  cases hfirst : nonBlank? first with
  | some v =>
    rintro rfl
    exact Bool.true_eq_false.mp (nonBlank?_eq_some_iff.mp hfirst).2
  | none =>
    cases hsecond : present? second with
    | some v => exact (present?_eq_some_iff.mp hsecond).2
    | none => exact husual

theorem smallLetters_eq_empty_iff {s : String} : smallLetters s = "" ↔ s = "" := by
  rw [smallLetters, String.ofList_eq_empty_iff, smallFrom_eq_nil_iff, String.toList_eq_nil_iff]

theorem squeeze_eq_empty_iff {s : String} : squeeze s = "" ↔ isBlank s = true := by
  simp [squeeze, isBlank]

theorem isBlank_append {s t : String} :
    isBlank (s ++ t) = (isBlank s && isBlank t) := by
  simp [isBlank]

end Text

namespace Render

open Html (Node Element printAll select select_append select_frame select_element
  select_voidElement)

/-- What a footer says about whom it is from. -/
inductive IdentityField where
  | name
  | phone
  | email
  deriving DecidableEq

namespace IdentityField

def shown : IdentityField → FooterIdentity → String
  | name => (·.name)
  | phone => (·.phone)
  | email => (·.email)

/-- What the branding has to say. -/
def given : IdentityField → Branding → Option String
  | name => (·.businessName)
  | phone => (·.phone)
  | email => (·.email)

/-- The key of the context that is asked after the branding. -/
def key : IdentityField → String
  | name => "business_name"
  | phone => "business_phone"
  | email => "business_email"

def className : IdentityField → String
  | name => "footer-business-name"
  | phone => "footer-contact"
  | email => "footer-contact"

/-- What stands before it in plain text. -/
def label : IdentityField → String
  | name => ""
  | phone => "Phone: "
  | email => "Email: "

/-- The switch of a footer for it. -/
def isOn : IdentityField → FooterBlock → Bool
  | name => (·.showBusinessName)
  | phone => (·.showContactInfo)
  | email => (·.showContactInfo)

/-- The branding has nothing to say. -/
def Ungiven (f : IdentityField) (branding : Option Branding) : Prop :=
  ∀ b ∈ branding, ∀ s ∈ f.given b, Text.isBlank s = true

/-- The branding has nothing to say, and the context has a blank that is not empty. -/
def LeftBlank (f : IdentityField) (branding : Option Branding) (c : Context) : Prop :=
  f.Ungiven branding ∧ ∃ v, Dict.get? c f.key = some v ∧ v ≠ "" ∧ Text.isBlank v = true

theorem ungiven_iff {f : IdentityField} {branding : Option Branding} :
    f.Ungiven branding ↔ Text.nonBlank? (branding.bind f.given) = none := by
  simp only [Ungiven, Text.nonBlank?_eq_none_iff, Option.bind_eq_some_iff, Option.mem_def]
  constructor
  · rintro h s ⟨b, hb, hs⟩
    exact h b hb s hs
  · intro h b hb s hs
    exact h s ⟨b, hb, hs⟩

theorem leftBlank_iff {f : IdentityField} {branding : Option Branding} {c : Context} :
    f.LeftBlank branding c ↔ Text.nonBlank? (branding.bind f.given) = none
      ∧ ∃ v, Text.present? (Dict.get? c f.key) = some v ∧ Text.isBlank v = true := by
  simp only [LeftBlank, ungiven_iff, Text.present?_eq_some_iff, and_assoc]

/-- What is shown when there is nothing in the branding and nothing in the context. -/
def usual (f : IdentityField) (identity : FooterIdentity) : String :=
  match f with
  | name => "Your Business"
  | phone => "+1 (555) 123-4567"
  | email => emailFor identity.name

theorem isBlank_usual (f : IdentityField) (identity : FooterIdentity) :
    Text.isBlank (f.usual identity) = false := by
  cases f with
  | name =>
    show Text.isBlank "Your Business" = false
    decide
  | phone =>
    show Text.isBlank "+1 (555) 123-4567" = false
    decide
  | email =>
    rw [usual, emailFor, Text.isBlank_append, Text.isBlank_append]
    rfl

theorem shown_eq (f : IdentityField) (branding : Option Branding) (c : Context) :
    f.shown (footerIdentity branding c)
      = ((Text.nonBlank? (branding.bind f.given)).or (Text.present? (Dict.get? c f.key))).getD
        (f.usual (footerIdentity branding c)) := by
  cases f <;> rfl

end IdentityField

theorem exists_emailFor_eq (name : String) :
    ∃ label, emailFor name = "hello@" ++ label ++ ".com"
      ∧ (label = "" ↔ Text.isBlank name = true) :=
  ⟨_, rfl, Text.smallLetters_eq_empty_iff.trans Text.squeeze_eq_empty_iff⟩

/-- Nothing that a footer says about whom it is from is empty, and what is blank was left blank. -/
structure IdentityShown (branding : Option Branding) (c : Context) : Prop where
  ne_empty (f : IdentityField) : f.shown (footerIdentity branding c) ≠ ""
  blank_iff (f : IdentityField) :
    Text.isBlank (f.shown (footerIdentity branding c)) = true ↔ f.LeftBlank branding c
  logo : ∀ logo ∈ (footerIdentity branding c).logoUrl, Text.isBlank logo = false
  /-- An address that is given nowhere is made up from the name. -/
  email : IdentityField.email.Ungiven branding
      → (∀ v ∈ Dict.get? c IdentityField.email.key, v = "")
      → ∃ label, (footerIdentity branding c).email = "hello@" ++ label ++ ".com"
        ∧ (label = "" ↔ IdentityField.name.LeftBlank branding c)

theorem isBlank_shown_iff (f : IdentityField) (branding : Option Branding) (c : Context) :
    Text.isBlank (f.shown (footerIdentity branding c)) = true ↔ f.LeftBlank branding c := by
  rw [f.shown_eq, Text.isBlank_chosen_iff (f.isBlank_usual _), IdentityField.leftBlank_iff]

theorem email_of_ungiven {branding : Option Branding} {c : Context}
    (hgiven : IdentityField.email.Ungiven branding)
    (hvalue : ∀ v ∈ Dict.get? c IdentityField.email.key, v = "") :
    (footerIdentity branding c).email = emailFor (footerIdentity branding c).name := by
  have hpresent : Text.present? (Dict.get? c IdentityField.email.key) = none :=
    Text.present?_eq_none_iff.mpr hvalue
  have hemail := IdentityField.email.shown_eq branding c
  rw [IdentityField.ungiven_iff.mp hgiven, hpresent] at hemail
  exact hemail

theorem identity_shown (branding : Option Branding) (c : Context) : IdentityShown branding c where
  ne_empty f := by
    rw [f.shown_eq]
    refine Text.chosen_ne_empty ?_
    intro hempty
    have husual := f.isBlank_usual (footerIdentity branding c)
    rw [hempty] at husual
    cases husual
  blank_iff f := isBlank_shown_iff f branding c
  logo _ hlogo := (Text.nonBlank?_eq_some_iff.mp hlogo).2
  email hgiven hvalue := by
    obtain ⟨label, hlabel, hempty⟩ := exists_emailFor_eq (footerIdentity branding c).name
    refine ⟨label, (email_of_ungiven hgiven hvalue).trans hlabel, hempty.trans ?_⟩
    exact isBlank_shown_iff .name branding c

/-! ## Where a footer shows it -/

/-- What stands in for a logo. -/
def monograms (ns : List Node) : List String :=
  (select (Element.hasClass "footer-logo") ns).map Element.shown

/-- Where pictures are found. -/
def pictures (ns : List Node) : List (Option String) :=
  (select (Element.hasTag "img") ns).map (·.attribute? "src")

/-- The fields that are switched on in a footer. -/
def shownFields (b : FooterBlock) : List IdentityField :=
  [IdentityField.name, .phone, .email].filter (·.isOn b)

/-- What a footer shows below its logo: these fields, and then its own text. -/
def shownParts (b : FooterBlock) (c : Context) (branding : Option Branding) :
    List (String × String) :=
  (shownFields b).map (fun f => (f.className, f.shown (footerIdentity branding c)))
    ++ (footerText? b c).toList.map fun text => ("footer-custom-text", text)

theorem footerBoxes_eq (b : FooterBlock) (c : Context) (branding : Option Branding) :
    footerBoxes b c branding = shownParts b c branding := by
  unfold footerBoxes shownParts shownFields
  cases hname : b.showBusinessName <;> cases hcontact : b.showContactInfo <;>
    simp [IdentityField.isOn, IdentityField.className, IdentityField.shown, hname, hcontact]

theorem footerParts_eq (b : FooterBlock) (c : Context) (branding : Option Branding) :
    footerParts (footerFragment b c branding)
      = (shownParts b c branding).map fun part => (some part.1, part.2) := by
  rw [footerParts_footerFragment, sharedParts_eq, footerBoxes_eq]

theorem footerForm_eq (b : FooterBlock) (c : Context) (branding : Option Branding) :
    footerForm b c branding = joinLines ("---" :: (shownFields b).map
      (fun f => f.label ++ f.shown (footerIdentity branding c)) ++ (footerText? b c).toList) := by
  unfold footerForm shownFields
  cases hname : b.showBusinessName <;> cases hcontact : b.showContactInfo <;>
    simp [IdentityField.isOn, IdentityField.label, IdentityField.shown, hname, hcontact]

theorem select_footerFragment {test : Element → Bool}
    (hframe : ∀ content, test ⟨"div", [("class", "email-footer")], content⟩ = false)
    (htexts : ∀ className ∈ footerClasses, ∀ content,
      test ⟨"div", [("class", className)], content⟩ = false)
    (b : FooterBlock) (c : Context) (branding : Option Branding) :
    select test (footerFragment b c branding)
      = if b.showLogo then select test [footerLogo (footerIdentity branding c)] else [] := by
  have hname := htexts "footer-business-name" (.head _)
  have hcontact := htexts "footer-contact" (.tail _ (.head _))
  have hcustom := htexts "footer-custom-text" (.tail _ (.tail _ (.head _)))
  unfold footerFragment classDiv
  rw [select_frame (hframe _), select_append, select_append, select_append, Html.select_newline,
    Html.select_nil]
  cases b.showLogo <;> cases b.showBusinessName <;> cases b.showContactInfo <;>
    cases footerText? b c <;> simp [select_element, hname, hcontact, hcustom]

theorem pictures_footerFragment (b : FooterBlock) (c : Context) (branding : Option Branding) :
    pictures (footerFragment b c branding)
      = if b.showLogo then (footerIdentity branding c).logoUrl.toList.map some else [] := by
  unfold pictures
  rw [select_footerFragment (fun _ => rfl) (fun _ _ _ => rfl)]
  cases b.showLogo with
  | false => rfl
  | true =>
    unfold footerLogo classDiv
    cases (footerIdentity branding c).logoUrl <;> simp [select_element, select_voidElement]

theorem monograms_footerFragment (b : FooterBlock) (c : Context) (branding : Option Branding) :
    monograms (footerFragment b c branding)
      = if b.showLogo ∧ (footerIdentity branding c).logoUrl = none then
          [String.ofList ((footerIdentity branding c).name.toList.take 1)] else [] := by
  have htexts : ∀ className ∈ footerClasses, ∀ content,
      Element.hasClass "footer-logo" ⟨"div", [("class", className)], content⟩ = false := by
    intro className hclass content
    rw [Element.hasClass_mk, beq_eq_false_iff_ne]
    intro hlogo
    rw [Option.some.inj hlogo] at hclass
    revert hclass
    decide
  unfold monograms
  rw [select_footerFragment (fun _ => rfl) htexts]
  cases b.showLogo with
  | false => rfl
  | true =>
    unfold footerLogo classDiv
    cases (footerIdentity branding c).logoUrl <;> simp [select_element, select_voidElement]

/-- In both formats a footer shows the fields that are switched on and its own text, and nothing
    else, and its logo is a picture or a monogram. -/
structure FooterShows (b : FooterBlock) (branding : Option Branding) (c : Context) : Prop where
  html : printAll (footerFragment b c branding)
    = footerMarkup (footerLogo? b (footerIdentity branding c)) (shownParts b c branding)
  parts : footerParts (footerFragment b c branding)
    = (shownParts b c branding).map fun part => (some part.1, part.2)
  form : footerForm b c branding = joinLines ("---" :: (shownFields b).map
    (fun f => f.label ++ f.shown (footerIdentity branding c)) ++ (footerText? b c).toList)
  noLogo : b.showLogo = false → pictures (footerFragment b c branding) = []
    ∧ monograms (footerFragment b c branding) = []
  /-- A name that does not begin with white space has a monogram that can be seen. -/
  logo : b.showLogo = true →
    (∃ logo, pictures (footerFragment b c branding) = [some logo]
      ∧ monograms (footerFragment b c branding) = [] ∧ Text.isBlank logo = false)
    ∨ (∃ monogram, pictures (footerFragment b c branding) = []
      ∧ monograms (footerFragment b c branding) = [monogram]
      ∧ ∀ first ∈ (footerIdentity branding c).name.toList.head?, Text.isBlankChar first = false →
        monogram.length = 1 ∧ Text.isBlank monogram = false)

theorem monogram_of_head? {name : String} {first : Char} (h : name.toList.head? = some first)
    (hfirst : Text.isBlankChar first = false) :
    (String.ofList (name.toList.take 1)).length = 1
      ∧ Text.isBlank (String.ofList (name.toList.take 1)) = false := by
  obtain ⟨rest, hname⟩ := List.head?_eq_some_iff.mp h
  simp [hname, Text.isBlank, hfirst]

theorem footer_shows (b : FooterBlock) (branding : Option Branding) (c : Context) :
    FooterShows b branding c where
  html := by rw [printAll_footerFragment, footerBoxes_eq]
  parts := footerParts_eq b c branding
  form := footerForm_eq b c branding
  noLogo hoff := by
    rw [pictures_footerFragment, monograms_footerFragment]
    simp [hoff]
  logo hon := by
    rw [pictures_footerFragment, monograms_footerFragment, if_pos hon]
    cases hlogo : (footerIdentity branding c).logoUrl with
    | some logo => exact .inl ⟨logo, rfl, by simp, (identity_shown branding c).logo logo hlogo⟩
    | none =>
      refine .inr ⟨_, rfl, if_pos ⟨hon, rfl⟩, fun first hhead hfirst => ?_⟩
      exact monogram_of_head? hhead hfirst

/-- **Whom a footer is from.**  Name, number and address are never empty, and blank only where the
    context has a blank for them and the branding has nothing; an address that is made up has a
    label, and a logo can be seen.  Footers show just these in any format, as they are switched
    on. -/
theorem footer_identity_shown (branding : Option Branding) (c : Context) :
    IdentityShown branding c ∧ ∀ b : FooterBlock, FooterShows b branding c :=
  ⟨identity_shown branding c, fun b => footer_shows b branding c⟩

/-- A business whose name is two spaces. -/
def namedBlank : Context := Dict.ofList [("business_name", "  ")]

/-- A footer without a text of its own. -/
def plainFooter : FooterBlock :=
  { showLogo := true, showBusinessName := true, showContactInfo := true }

/-- A blank of the context is shown as it is. -/
theorem footer_identity_blank :
    Text.isBlank (footerIdentity none namedBlank).name = true
      ∧ (footerIdentity none namedBlank).email = "hello@.com"
      ∧ (some "footer-business-name", "  ")
        ∈ footerParts (footerFragment plainFooter namedBlank none)
      ∧ footerForm plainFooter namedBlank none
        = "---\n  \nPhone: +1 (555) 123-4567\nEmail: hello@.com" := by
  have hname : (footerIdentity none namedBlank).name = "  " := by decide
  have hemail : (footerIdentity none namedBlank).email = "hello@.com" := by decide
  refine ⟨by decide, hemail, ?_, ?_⟩
  · rw [footerParts_eq, ← hname]
    exact .head _
  · decide

end Render

end BlockMail
