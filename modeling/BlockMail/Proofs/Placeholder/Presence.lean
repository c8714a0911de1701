import BlockMail.Proofs.Placeholder.Cut

/-! # Nothing vanishes

No token stands for the empty string, so a template becomes empty only if it is empty.  The place
and telephone numbers stand for something in every context: the place for something specific or a
dash, `location_value`, and a telephone number for one of three things, `PhoneValue`.
-/

namespace BlockMail.Placeholder

/-! ## Telephone numbers -/

theorem isPhoneKey_iff {key : String} :
    isPhoneKey key = true ↔ "phone".toList <:+: key.toList := by
  unfold isPhoneKey
  induction key.toList with
  | nil => simp [isPhoneKey.containsChars]
  | cons c cs ih =>
    rw [isPhoneKey.containsChars, Bool.or_eq_true, ih, List.isPrefixOf_iff_prefix,
      List.infix_cons_iff]

theorem isPhoneKey_locationKey : isPhoneKey locationKey = false := by decide

/-- What a telephone number stands for: its value, its fallback or a dash, whichever of them is the
    first to say something. -/
inductive PhoneValue (key : String) (fallback : Option String) (c : Context) : String → Prop
  | value {v : String} (hvalue : Dict.get? c key = some v) (hv : Text.isBlank v = false) :
      PhoneValue key fallback c v
  | fallback {f : String} (hblank : ∀ v ∈ Dict.get? c key, Text.isBlank v = true)
      (hfallback : fallback = some f) (hf : f ≠ "") : PhoneValue key fallback c f
  | dash (hblank : ∀ v ∈ Dict.get? c key, Text.isBlank v = true)
      (hfallback : ∀ f ∈ fallback, f = "") : PhoneValue key fallback c "-"

theorem ne_empty_of_isBlank {s : String} (h : Text.isBlank s = false) : s ≠ "" := by
  rintro rfl
  cases h

theorem PhoneValue.ne_empty {key v : String} {fallback : Option String} {c : Context}
    (h : PhoneValue key fallback c v) : v ≠ "" := by
  cases h with
  | value _ hv => exact ne_empty_of_isBlank hv
  | fallback _ _ hf => exact hf
  | dash => decide

theorem phone_value {key : String} (hkey : "phone".toList <:+: key.toList)
    (fallback : Option String) (c : Context) :
    ∃ v, Token.value? ⟨key, fallback⟩ c = some v ∧ PhoneValue key fallback c v := by
  have hphone : isPhoneKey key = true := isPhoneKey_iff.mpr hkey
  have hplace : key ≠ locationKey := by
    rintro rfl
    rw [isPhoneKey_locationKey] at hphone
    cases hphone
  refine ⟨_, by rw [Token.value?, if_neg hplace, if_pos hphone], ?_⟩
  -- the three sources in the order in which they are asked
  cases hvalue : c.getNonBlank? key with
  | some v =>
    obtain ⟨hbound, hv⟩ := Text.nonBlank?_eq_some_iff.mp hvalue
    exact .value hbound hv
  | none =>
    have hblank : ∀ v ∈ Dict.get? c key, Text.isBlank v = true :=
      Text.nonBlank?_eq_none_iff.mp hvalue
    cases hfallback : Text.present? fallback with
    | some f =>
      obtain ⟨hgiven, hf⟩ := Text.present?_eq_some_iff.mp hfallback
      exact .fallback hblank hgiven hf
    | none => exact .dash hblank (Text.present?_eq_none_iff.mp hfallback)

/-! ## The place -/

theorem location_value (fallback : Option String) (c : Context) :
    ∃ v, Token.value? ⟨"session_location", fallback⟩ c = some v
      ∧ Text.isBlank v = false ∧ v ≠ "Studio" ∧ v ≠ "TBD" := by
  have hvalue : Token.value? ⟨"session_location", fallback⟩ c
      = some (((c.getNonBlank? locationKey).filter fun v => !vagueLocations.contains v).getD
        dash) :=
    if_pos rfl
  refine ⟨_, hvalue, ?_⟩
  cases hplace : (c.getNonBlank? locationKey).filter fun v => !vagueLocations.contains v with
  | none => decide
  | some v =>
    obtain ⟨hvalue, hspecific⟩ := Option.filter_eq_some_iff.mp hplace
    obtain ⟨-, hv⟩ := Text.nonBlank?_eq_some_iff.mp hvalue
    have hnotVague : v ∉ vagueLocations := by simpa using hspecific
    refine ⟨hv, fun (h : v = "Studio") => hnotVague ?_, fun (h : v = "TBD") => hnotVague ?_⟩
    · rw [h]
      decide
    · rw [h]
      decide

/-- The keys that stand for something whether they are bound or not. -/
def AlwaysFilled (key : String) : Prop :=
  key = "session_location" ∨ "phone".toList <:+: key.toList

theorem AlwaysFilled.exists_value {t : Token} (h : AlwaysFilled t.key) (c : Context) :
    ∃ v, t.value? c = some v := by
  obtain ⟨key, fallback⟩ := t
  rcases h with rfl | hphone
  · obtain ⟨v, hv, -⟩ := location_value fallback c
    exact ⟨v, hv⟩
  · obtain ⟨v, hv, -⟩ := phone_value hphone fallback c
    exact ⟨v, hv⟩

theorem value?_of_not_alwaysFilled {key : String} (hkey : ¬ AlwaysFilled key)
    (fallback : Option String) (c : Context) :
    Token.value? ⟨key, fallback⟩ c
      = (Text.present? (Dict.get? c key)).or (Text.present? fallback) := by
  obtain ⟨hplace, hphone⟩ := not_or.mp hkey
  rw [← isPhoneKey_iff] at hphone
  exact (if_neg hplace).trans (if_neg hphone)

theorem exists_value_of_fallback {key f : String} (hf : f ≠ "") (c : Context) :
    ∃ v, Token.value? ⟨key, some f⟩ c = some v := by
  by_cases hkey : AlwaysFilled key
  · exact AlwaysFilled.exists_value hkey c
  · have hfallback : Text.present? (some f) = some f := Text.present?_eq_some_iff.mpr ⟨rfl, hf⟩
    rw [value?_of_not_alwaysFilled hkey, hfallback]
    cases Text.present? (Dict.get? c key) with
    | some v => exact ⟨v, rfl⟩
    | none => exact ⟨f, rfl⟩

/-! ## Templates -/

theorem value?_ne_empty (t : Token) (c : Context) : t.value? c ≠ some "" := by
  obtain ⟨key, fallback⟩ := t
  intro hvalue
  by_cases hkey : AlwaysFilled key
  · rcases hkey with rfl | hphone
    · obtain ⟨v, hv, hblank, -⟩ := location_value fallback c
      exact ne_empty_of_isBlank hblank (Option.some.inj (hv.symm.trans hvalue))
    · obtain ⟨v, hv, hsaid⟩ := phone_value hphone fallback c
      exact hsaid.ne_empty (Option.some.inj (hv.symm.trans hvalue))
  · rw [value?_of_not_alwaysFilled hkey] at hvalue
    rcases Option.or_eq_some_iff.mp hvalue with hbound | ⟨-, hgiven⟩
    · exact (Text.present?_eq_some_iff.mp hbound).2 rfl
    · exact (Text.present?_eq_some_iff.mp hgiven).2 rfl

theorem isBlank_written (t : Token) : Text.isBlank t.written = false := by
  rw [Text.isBlank, toList_written]
  rfl

theorem fill_ne_nil (c : Context) (s : Segment) : s.fill c ≠ [] := by
  cases s with
  | literal ch => exact List.cons_ne_nil _ _
  | token t =>
    rw [Segment.fill, ne_eq, String.toList_eq_nil_iff]
    cases hvalue : t.value? c with
    | none => exact ne_empty_of_isBlank (isBlank_written t)
    | some v =>
      rintro rfl
      exact value?_ne_empty t c hvalue

theorem segments_eq_nil_iff {cs : List Char} : segments cs = [] ↔ cs = [] := by
  constructor
  · intro h
    cases cs with
    | nil => rfl
    | cons c cs =>
      unfold segments at h
      split at h
      · split at h <;> cases h
      · cases h
  · rintro rfl
    rw [segments]

theorem resolve_eq_empty_iff {template : String} {c : Context} :
    resolve template c = "" ↔ template = "" := by
  rw [resolve, String.ofList_eq_empty_iff, List.flatMap_eq_nil_iff]
  constructor
  · intro h
    have hnil : segments template.toList = [] :=
      List.eq_nil_iff_forall_not_mem.mpr fun s hs => fill_ne_nil c s (h s hs)
    exact String.toList_eq_nil_iff.mp (segments_eq_nil_iff.mp hnil)
  · rintro rfl
    rw [String.toList_empty, segments]
    exact List.forall_mem_nil _

end BlockMail.Placeholder
