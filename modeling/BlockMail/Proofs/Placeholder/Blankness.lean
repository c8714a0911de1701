import BlockMail.Proofs.Placeholder.Presence

/-! # What fades

A template that is not blank may be filled in to nothing but white space.  A token whose value has
been left out is seen, but one that stands for a value of white space is not, and whether a value
counts as left out depends on the key: a blank telephone number does, any other blank does not as
long as it is not empty.
-/

namespace BlockMail.Placeholder

/-- The token stands for white space.  The place never does. -/
inductive BlankValue (c : Context) : Token → Prop
  | value {key v : String} {fallback : Option String} (hkey : ¬ AlwaysFilled key)
      (hvalue : Dict.get? c key = some v) (hne : v ≠ "") (hv : Text.isBlank v = true) :
      BlankValue c ⟨key, fallback⟩
  | fallback {key f : String} (hkey : ¬ AlwaysFilled key)
      (hmissing : ∀ v ∈ Dict.get? c key, v = "") (hne : f ≠ "") (hf : Text.isBlank f = true) :
      BlankValue c ⟨key, some f⟩
  | phone {key f : String} (hkey : "phone".toList <:+: key.toList)
      (hmissing : ∀ v ∈ Dict.get? c key, Text.isBlank v = true) (hne : f ≠ "")
      (hf : Text.isBlank f = true) : BlankValue c ⟨key, some f⟩

theorem BlankValue.exists_value {c : Context} {t : Token} (h : BlankValue c t) :
    ∃ v, t.value? c = some v ∧ Text.isBlank v = true := by
  cases h with
  | @value key v fallback hkey hvalue hne hv =>
    have hpresent : Text.present? (Dict.get? c key) = some v :=
      Text.present?_eq_some_iff.mpr ⟨hvalue, hne⟩
    exact ⟨v, by rw [value?_of_not_alwaysFilled hkey, hpresent, Option.some_or], hv⟩
  | @fallback key f hkey hmissing hne hf =>
    have hnone : Text.present? (Dict.get? c key) = none :=
      Text.present?_eq_none_iff.mpr hmissing
    have hpresent : Text.present? (some f) = some f := Text.present?_eq_some_iff.mpr ⟨rfl, hne⟩
    exact ⟨f, by rw [value?_of_not_alwaysFilled hkey, hnone, hpresent, Option.none_or], hf⟩
  | @phone key f hkey hmissing hne hf =>
    obtain ⟨v, hv, hsaid⟩ := phone_value hkey (some f) c
    refine ⟨v, hv, ?_⟩
    cases hsaid with
    | value hvalue hshown => exact hmissing v hvalue
    | fallback _ hgiven _ =>
      cases hgiven
      exact hf
    | dash _ hempty => exact absurd (hempty f rfl) hne

theorem BlankValue.of_value {c : Context} {t : Token} {v : String} (hvalue : t.value? c = some v)
    (hv : Text.isBlank v = true) : BlankValue c t := by
  obtain ⟨key, fallback⟩ := t
  by_cases hkey : AlwaysFilled key
  · rcases hkey with rfl | hphone
    · obtain ⟨w, hw, hshown, -⟩ := location_value fallback c
      cases hw.symm.trans hvalue
      cases hshown.symm.trans hv
    · obtain ⟨w, hw, hsaid⟩ := phone_value hphone fallback c
      cases hw.symm.trans hvalue
      cases hsaid with
      | value _ hshown => cases hshown.symm.trans hv
      | fallback hblank hgiven hne =>
        cases hgiven
        exact .phone hphone hblank hne hv
      | dash => cases hv
  · rw [value?_of_not_alwaysFilled hkey, Option.or_eq_some_iff, Text.present?_eq_some_iff,
      Text.present?_eq_some_iff] at hvalue
    rcases hvalue with ⟨hbound, hne⟩ | ⟨hmissing, rfl, hne⟩
    · exact .value hkey hbound hne hv
    · exact .fallback hkey (Text.present?_eq_none_iff.mp hmissing) hne hv

theorem isBlank_filled_token_iff {c : Context} {t : Token} :
    Text.isBlank ((t.value? c).getD t.written) = true ↔ BlankValue c t := by
  constructor
  · intro h
    cases hvalue : t.value? c with
    | none =>
      rw [hvalue, Option.getD_none, isBlank_written] at h
      cases h
    | some v =>
      rw [hvalue, Option.getD_some] at h
      exact .of_value hvalue h
  · intro h
    obtain ⟨v, hvalue, hv⟩ := h.exists_value
    rw [hvalue, Option.getD_some, hv]

/-- Nothing is left of the cut but white space. -/
structure Cut.Fades (cut : Cut) (c : Context) : Prop where
  leading : ∀ ch ∈ cut.leading, Text.isBlankChar ch = true
  tokens : ∀ p ∈ cut.tokens, BlankValue c p.1
  literals : ∀ p ∈ cut.tokens, ∀ ch ∈ p.2, Text.isBlankChar ch = true

theorem Cut.isBlank_filled_iff {cut : Cut} {c : Context} :
    Text.isBlank (String.ofList (cut.filled c)) = true ↔ cut.Fades c := by
  have htoken : ∀ t : Token,
      (∀ ch ∈ ((t.value? c).getD t.written).toList, Text.isBlankChar ch = true)
        ↔ BlankValue c t := by
    intro t
    rw [← isBlank_filled_token_iff, Text.isBlank, List.all_eq_true]
  simp only [Text.isBlank, String.toList_ofList, Cut.filled, List.all_eq_true, List.mem_append,
    List.mem_flatMap]
  constructor
  · intro h
    refine ⟨fun ch hch => h ch (.inl hch), fun p hp => (htoken p.1).mp fun ch hch => ?_,
      fun p hp ch hch => h ch (.inr ⟨p, hp, .inr hch⟩)⟩
    exact h ch (.inr ⟨p, hp, .inl hch⟩)
  · rintro ⟨hleading, htokens, hliterals⟩ ch (hch | ⟨p, hp, hch | hch⟩)
    · exact hleading ch hch
    · exact (htoken p.1).mpr (htokens p hp) ch hch
    · exact hliterals p hp ch hch

/-- The template is white space and tokens that stand for white space. -/
def FadesOut (template : String) (c : Context) : Prop :=
  ∃ cut : Cut, cut.Cuts template.toList ∧ cut.Fades c

theorem resolve_of_cuts {template : String} {cut : Cut} (h : cut.Cuts template.toList)
    (c : Context) : resolve template c = String.ofList (cut.filled c) := by
  rw [Cut.cuts_iff.mp h, Cut.filled_ofSegments]
  rfl

theorem isBlank_resolve_iff {template : String} {c : Context} :
    Text.isBlank (resolve template c) = true ↔ FadesOut template c := by
  constructor
  · intro h
    have hcut := Cut.cuts_iff.mpr (rfl : Cut.ofSegments (segments template.toList) = _)
    rw [resolve_of_cuts hcut, Cut.isBlank_filled_iff] at h
    exact ⟨_, hcut, h⟩
  · rintro ⟨cut, hcut, hfades⟩
    rw [resolve_of_cuts hcut, Cut.isBlank_filled_iff]
    exact hfades

end BlockMail.Placeholder
