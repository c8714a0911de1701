import BlockMail.Proofs.Placeholder.Grammar

/-! # How a template is cut

A cut of a template is a literal stretch, then tokens, each with the literal stretch behind
it.  A template has exactly one cut that leaves no token in its literal stretches: whatever
occurrence of the grammar the template has is a token of the cut, or starts in the fallback
of one.  Filling in a template fills in the tokens of this cut and copies the rest.
-/

namespace BlockMail.Placeholder

structure Cut where
  leading : List Char
  tokens : List (Token × List Char)

namespace Cut

/-- What is cut. -/
def text (cut : Cut) : List Char :=
  cut.leading ++ cut.tokens.flatMap fun p => p.1.written.toList ++ p.2

/-- The text with a value for every token that stands for something. -/
def filled (cut : Cut) (c : Context) : List Char :=
  cut.leading ++ cut.tokens.flatMap fun p => ((p.1.value? c).getD p.1.written).toList ++ p.2

/-- The token `t` is one of the cut and starts at the place `n` of its text. -/
def HasAt (cut : Cut) (t : Token) (n : Nat) : Prop :=
  ∃ before literal after, cut.tokens = before ++ (t, literal) :: after
    ∧ n = (text ⟨cut.leading, before⟩).length

/-- The occurrence of `t` at `n` is a token of the cut, or starts in the fallback of one and
    ends with it. -/
def Covers (cut : Cut) (t : Token) (n : Nat) : Prop :=
  cut.HasAt t n ∨ ∃ u m, cut.HasAt u m ∧ InFallback u m n
    ∧ n + t.written.length = m + u.written.length

/-- The cut is one of `cs` into tokens of the grammar, and covers all that occur. -/
structure Cuts (cut : Cut) (cs : List Char) : Prop where
  text_eq : cut.text = cs
  wellFormed : ∀ p ∈ cut.tokens, p.1.WellFormed
  covers : ∀ t n, Occurs t n cs → cut.Covers t n

/-! ## From the left -/

/-- The cut with another character before its text. -/
def push (c : Char) (cut : Cut) : Cut := ⟨c :: cut.leading, cut.tokens⟩

/-- The cut with a token before its text. -/
def pushToken (t : Token) (cut : Cut) : Cut := ⟨[], (t, cut.leading) :: cut.tokens⟩

/-- The cut that the segments of a template make. -/
def ofSegments : List Segment → Cut
  | [] => ⟨[], []⟩
  | .literal c :: rest => (ofSegments rest).push c
  | .token t :: rest => (ofSegments rest).pushToken t

theorem text_push (c : Char) (cut : Cut) : (cut.push c).text = c :: cut.text := rfl

theorem text_pushToken (t : Token) (cut : Cut) :
    (cut.pushToken t).text = t.written.toList ++ cut.text := by
  unfold text pushToken
  rw [List.flatMap_cons, List.nil_append, List.append_assoc]

theorem hasAt_push_iff {c : Char} {cut : Cut} {t : Token} {n : Nat} :
    (cut.push c).HasAt t n ↔ ∃ k, n = k + 1 ∧ cut.HasAt t k := by
  constructor
  · rintro ⟨before, literal, after, htokens, rfl⟩
    exact ⟨_, rfl, before, literal, after, htokens, rfl⟩
  · rintro ⟨k, rfl, before, literal, after, htokens, rfl⟩
    exact ⟨before, literal, after, htokens, rfl⟩

theorem hasAt_pushToken_iff {u t : Token} {cut : Cut} {n : Nat} :
    (cut.pushToken u).HasAt t n
      ↔ (t = u ∧ n = 0) ∨ ∃ k, n = u.written.length + k ∧ cut.HasAt t k := by
  constructor
  · rintro ⟨before, literal, after, htokens, rfl⟩
    cases before with
    | nil =>
      cases htokens
      exact .inl ⟨rfl, rfl⟩
    | cons first before =>
      obtain ⟨rfl, htail⟩ := List.cons.inj htokens
      refine .inr ⟨_, ?_, before, literal, after, htail, rfl⟩
      show (text (pushToken u ⟨cut.leading, before⟩)).length = _
      rw [text_pushToken, List.length_append, String.length_toList]
  · rintro (⟨rfl, rfl⟩ | ⟨k, rfl, before, literal, after, htokens, rfl⟩)
    · exact ⟨[], cut.leading, cut.tokens, rfl, rfl⟩
    · refine ⟨(u, cut.leading) :: before, literal, after, ?_, ?_⟩
      · show (u, cut.leading) :: cut.tokens = _
        rw [htokens]
        rfl
      · show _ = (text (pushToken u ⟨cut.leading, before⟩)).length
        rw [text_pushToken, List.length_append, String.length_toList]

theorem inFallback_add_iff {u : Token} {m n k : Nat} :
    InFallback u (k + m) (k + n) ↔ InFallback u m n := by
  unfold InFallback
  constructor <;> rintro ⟨f, hf, hfrom, hto⟩ <;> exact ⟨f, hf, by omega, by omega⟩

theorem covers_push_iff {c : Char} {cut : Cut} {t : Token} {n : Nat} :
    (cut.push c).Covers t (n + 1) ↔ cut.Covers t n := by
  unfold Covers
  constructor
  · rintro (h | ⟨u, m, hu, hin, hend⟩)
    · obtain ⟨k, hk, h⟩ := hasAt_push_iff.mp h
      cases hk
      exact .inl h
    · obtain ⟨k, rfl, hat⟩ := hasAt_push_iff.mp hu
      rw [Nat.add_comm k, Nat.add_comm n] at hin
      exact .inr ⟨u, k, hat, inFallback_add_iff.mp hin, by omega⟩
  · rintro (h | ⟨u, m, hu, hin, hend⟩)
    · exact .inl (hasAt_push_iff.mpr ⟨n, rfl, h⟩)
    · refine .inr ⟨u, m + 1, hasAt_push_iff.mpr ⟨m, rfl, hu⟩, ?_, by omega⟩
      rw [Nat.add_comm m, Nat.add_comm n]
      exact inFallback_add_iff.mpr hin

theorem covers_pushToken_iff {u t : Token} {cut : Cut} {n : Nat} :
    (cut.pushToken u).Covers t (u.written.length + n) ↔ cut.Covers t n := by
  have hpos : 0 < u.written.length := by
    rw [length_written]
    omega
  unfold Covers
  constructor
  · rintro (h | ⟨v, m, hv, hin, hend⟩)
    · rcases hasAt_pushToken_iff.mp h with ⟨-, hzero⟩ | ⟨k, hk, h⟩
      · omega
      · obtain rfl : n = k := by omega
        exact .inl h
    · rcases hasAt_pushToken_iff.mp hv with ⟨rfl, rfl⟩ | ⟨k, rfl, hat⟩
      · have := hin.lt_length
        omega
      · exact .inr ⟨v, k, hat, inFallback_add_iff.mp hin, by omega⟩
  · rintro (h | ⟨v, m, hv, hin, hend⟩)
    · exact .inl (hasAt_pushToken_iff.mpr (.inr ⟨n, rfl, h⟩))
    · exact .inr ⟨v, _, hasAt_pushToken_iff.mpr (.inr ⟨m, rfl, hv⟩), inFallback_add_iff.mpr hin,
        by omega⟩

/-! ## The one cut -/

theorem length_text_eq_zero_iff {cut : Cut} :
    cut.text.length = 0 ↔ cut.leading = [] ∧ cut.tokens = [] := by
  obtain ⟨leading, tokens⟩ := cut
  cases leading with
  | cons c leading => simp [text]
  | nil =>
    cases tokens with
    | nil => simp [text]
    | cons p tokens => simp [text, toList_written]

theorem cuts_nil_iff {cut : Cut} : cut.Cuts [] ↔ cut = ⟨[], []⟩ := by
  constructor
  · intro h
    have hlength := congrArg List.length h.text_eq
    obtain ⟨hleading, htokens⟩ := length_text_eq_zero_iff.mp hlength
    obtain ⟨leading, tokens⟩ := cut
    cases hleading
    cases htokens
    rfl
  · rintro rfl
    refine ⟨rfl, fun p hp => absurd hp List.not_mem_nil, fun t n h => ?_⟩
    have hprefix := h.2
    rw [List.drop_nil, List.prefix_nil, toList_written] at hprefix
    cases hprefix

theorem cuts_cons_iff {cut : Cut} {c : Char} {cs : List Char}
    (hnone : ∀ t, ¬ Occurs t 0 (c :: cs)) :
    cut.Cuts (c :: cs) ↔ ∃ rest : Cut, cut = rest.push c ∧ rest.Cuts cs := by
  constructor
  · intro h
    obtain ⟨leading, tokens⟩ := cut
    have htext := h.text_eq
    cases leading with
    | nil =>
      cases tokens with
      | nil => cases htext
      | cons p tokens =>
        have hfirst : Occurs p.1 0 (c :: cs) := by
          rw [← htext]
          exact ⟨h.wellFormed p (.head _), by simp [text]⟩
        exact absurd hfirst (hnone p.1)
    | cons d leading =>
      obtain ⟨rfl, hbehind⟩ := List.cons.inj htext
      refine ⟨⟨leading, tokens⟩, rfl, hbehind, h.wellFormed, fun t n hoccurs => ?_⟩
      exact covers_push_iff.mp (h.covers t (n + 1) (occurs_cons_iff.mpr hoccurs))
  · rintro ⟨rest, rfl, h⟩
    refine ⟨by rw [text_push, h.text_eq], h.wellFormed, fun t n hoccurs => ?_⟩
    cases n with
    | zero => exact absurd hoccurs (hnone t)
    | succ n => exact covers_push_iff.mpr (h.covers t n (occurs_cons_iff.mp hoccurs))

theorem cuts_token_iff {cut : Cut} {u : Token} {cs : List Char} (hu : u.WellFormed) :
    cut.Cuts (u.written.toList ++ cs) ↔ ∃ rest : Cut, cut = rest.pushToken u ∧ rest.Cuts cs := by
  have hfirst : Occurs u 0 (u.written.toList ++ cs) := ⟨hu, List.prefix_append _ _⟩
  have hbehind : ∀ t n,
      Occurs t (u.written.length + n) (u.written.toList ++ cs) ↔ Occurs t n cs := by
    intro t n
    rw [← String.length_toList, occurs_append_iff]
  constructor
  · intro h
    obtain ⟨leading, tokens⟩ := cut
    -- the token written at the start is one of the cut: a fallback that held it would have to begin
    -- before the text
    rcases h.covers u 0 hfirst with ⟨before, literal, after, htokens, hzero⟩ | ⟨v, m, -, hin, -⟩
    · obtain ⟨hleading, hbefore⟩ := length_text_eq_zero_iff.mp hzero.symm
      cases hleading
      cases hbefore
      cases htokens
      have htext := h.text_eq
      refine ⟨⟨literal, after⟩, rfl, ?_, fun p hp => h.wellFormed p (.tail _ hp), ?_⟩
      · exact List.append_cancel_left ((text_pushToken u ⟨literal, after⟩).symm.trans htext)
      · intro t n hoccurs
        exact covers_pushToken_iff.mp (h.covers t _ ((hbehind t n).mpr hoccurs))
    · obtain ⟨f, -, hfrom, -⟩ := hin
      omega
  · rintro ⟨rest, rfl, h⟩
    refine ⟨by rw [text_pushToken, h.text_eq], ?_, fun t n hoccurs => ?_⟩
    · intro p hp
      cases hp with
      | head => exact hu
      | tail _ hp => exact h.wellFormed p hp
    · have hat : (rest.pushToken u).HasAt u 0 := hasAt_pushToken_iff.mpr (.inl ⟨rfl, rfl⟩)
      by_cases hzero : n = 0
      · subst hzero
        exact .inl (hoccurs.unique hfirst ▸ hat)
      by_cases hlt : n < u.written.length
      · obtain ⟨hin, hend⟩ := inFallback_of_occurs hu (by omega) hlt hoccurs
        exact .inr ⟨u, 0, hat, hin, by omega⟩
      · obtain ⟨k, rfl⟩ : ∃ k, n = u.written.length + k := ⟨n - u.written.length, by omega⟩
        exact covers_pushToken_iff.mpr (h.covers t k ((hbehind t k).mp hoccurs))

/-- The cut that the segments make is the only one. -/
theorem cuts_iff {cut : Cut} {cs : List Char} :
    cut.Cuts cs ↔ cut = ofSegments (segments cs) := by
  fun_induction segments cs generalizing cut with
  | case1 => exact cuts_nil_iff
  | case2 cs t rest hscan ih =>
    have ht := (scanToken?_eq_some_iff.mp hscan).1
    rw [written_of_scanToken? hscan, cuts_token_iff ht, ofSegments]
    simp [ih]
  | case3 cs hscan ih =>
    rw [cuts_cons_iff, ofSegments]
    · simp [ih]
    · intro t hoccurs
      obtain ⟨tail, rest, heq, hsome⟩ := occurs_zero_iff.mp hoccurs
      cases heq
      rw [hscan] at hsome
      cases hsome
  | case4 c cs hc ih =>
    rw [cuts_cons_iff, ofSegments]
    · simp [ih]
    · intro t hoccurs
      obtain ⟨tail, rest, heq, -⟩ := occurs_zero_iff.mp hoccurs
      cases heq
      exact hc rfl

theorem filled_ofSegments (c : Context) (ss : List Segment) :
    (ofSegments ss).filled c = ss.flatMap (Segment.fill c) := by
  induction ss with
  | nil => rfl
  | cons s ss ih =>
    rw [List.flatMap_cons, ← ih]
    cases s with
    | literal ch => rfl
    | token t => simp [ofSegments, pushToken, filled, Segment.fill]

end Cut

/-- **Filling in a template.**  A template has one cut into tokens and literal stretches that
    covers every occurrence of the grammar.  Its literal stretches are copied, and each of its
    tokens becomes what it stands for, or stays as it is written. -/
theorem resolve_eq_filled (template : String) :
    ∃ cut : Cut, cut.Cuts template.toList
      ∧ (∀ other : Cut, other.Cuts template.toList → other = cut)
      ∧ ∀ c : Context, resolve template c = String.ofList (cut.filled c) := by
  refine ⟨.ofSegments (segments template.toList), Cut.cuts_iff.mpr rfl,
    fun other h => Cut.cuts_iff.mp h, fun c => ?_⟩
  rw [Cut.filled_ofSegments]
  rfl

end BlockMail.Placeholder
