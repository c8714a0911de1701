import BlockMail.Proofs.Placeholder.Cut
import Mathlib.Data.List.Infix

/-! # Templates side by side

Filling in goes piece by piece at every place that no token is written across.  There the pieces of
a template are those of its two parts, `segments_append`, because the scanner finds in the first
part just the tokens that it finds there with the second part behind it.

Two kinds of places are of this kind wherever they are: the end of a text in which every opening
brace has a closing one behind it, and a place at which a token of the template starts.
-/

namespace BlockMail.Placeholder

/-! ## The pieces of a template -/

theorem segments_written_append {t : Token} (ht : t.WellFormed) (cs : List Char) :
    segments (t.written.toList ++ cs) = .token t :: segments cs := by
  have hscan : scanToken? (t.inside ++ '\x7d' :: cs) = some (t, cs) :=
    scanToken?_eq_some_iff.mpr ⟨ht, rfl⟩
  rw [toList_written, List.cons_append, List.append_assoc, List.singleton_append, segments,
    if_pos rfl]
  split
  · next u rest hread =>
    rw [hscan] at hread
    cases hread
    rfl
  · next hread =>
    rw [hscan] at hread
    cases hread

theorem segments_cons_literal {c : Char} {cs : List Char} (h : ∀ t, ¬ Occurs t 0 (c :: cs)) :
    segments (c :: cs) = .literal c :: segments cs := by
  rw [segments]
  split
  · next hc =>
    split
    · next t rest hread => exact absurd (occurs_zero_iff.mpr ⟨cs, rest, hc ▸ rfl, hread⟩) (h t)
    · rfl
  · rfl

theorem segments_of_no_token {cs : List Char} (h : ∀ t n, ¬ Occurs t n cs) :
    segments cs = cs.map .literal := by
  induction cs with
  | nil => rw [segments, List.map_nil]
  | cons c cs ih =>
    rw [segments_cons_literal fun t => h t 0, List.map_cons, ih]
    intro t n hoccurs
    exact h t (n + 1) (occurs_cons_iff.mpr hoccurs)

theorem resolve_of_no_token {template : String} (h : ∀ t n, ¬ Occurs t n template.toList)
    (c : Context) : resolve template c = template := by
  have hfill : ∀ cs : List Char, (cs.map Segment.literal).flatMap (Segment.fill c) = cs := by
    intro cs
    induction cs with
    | nil => rfl
    | cons ch cs ih =>
      rw [List.map_cons, List.flatMap_cons, ih, Segment.fill, List.singleton_append]
  rw [resolve, segments_of_no_token h, hfill, String.ofList_toList]

theorem Occurs.braces_mem {t : Token} {n : Nat} {cs : List Char} (h : Occurs t n cs) :
    '\x7b' ∈ cs ∧ '\x7d' ∈ cs := by
  have hwritten : ∀ c ∈ t.written.toList, c ∈ cs := fun c hc =>
    List.mem_of_mem_drop (h.2.subset hc)
  rw [toList_written] at hwritten
  exact ⟨hwritten _ (by simp), hwritten _ (by simp)⟩

/-! ## Where a template can be cut in two -/

/-- The token that a text starts with. -/
def tokenAtStart? : List Char → Option Token
  | '\x7b' :: tail => (scanToken? tail).map Prod.fst
  | _ => none

theorem occurs_iff {t : Token} {n : Nat} {cs : List Char} :
    Occurs t n cs ↔ tokenAtStart? (cs.drop n) = some t := by
  have hstart : Occurs t n cs ↔ Occurs t 0 (cs.drop n) := by simp [Occurs]
  rw [hstart, occurs_zero_iff]
  constructor
  · rintro ⟨tail, rest, htail, hread⟩
    simp [htail, tokenAtStart?, hread]
  · intro hread
    unfold tokenAtStart? at hread
    split at hread
    · next tail htail =>
      obtain ⟨⟨u, rest⟩, hscan, rfl⟩ := Option.map_eq_some_iff.mp hread
      exact ⟨tail, rest, htail, hscan⟩
    · cases hread

/-- No token of the grammar starts in the first text and ends in the second. -/
def NoneAcross (as bs : List Char) : Prop :=
  ∀ t n, Occurs t n (as ++ bs) → n < as.length → n + t.written.length ≤ as.length

instance (as bs : List Char) : Decidable (NoneAcross as bs) :=
  decidable_of_iff (∀ n < as.length, ∀ t ∈ tokenAtStart? ((as ++ bs).drop n),
      n + t.written.length ≤ as.length) <| by
    simp only [NoneAcross, occurs_iff, Option.mem_def]
    exact ⟨fun h t n ht hlt => h n hlt t ht, fun h n hlt t ht => h t n ht hlt⟩

/-- Every opening brace has a closing one somewhere behind it. -/
def BracesClosed (cs : List Char) : Prop :=
  ∀ tail, '\x7b' :: tail <:+ cs → '\x7d' ∈ tail

instance (cs : List Char) : Decidable (BracesClosed cs) :=
  decidable_of_iff (∀ suffix ∈ cs.tails, suffix.head? = some '\x7b' → '\x7d' ∈ suffix.tail) <| by
    simp only [BracesClosed, List.mem_tails]
    constructor
    · intro h tail htail
      exact h _ htail rfl
    · intro h suffix hsuffix hhead
      cases suffix with
      | nil => cases hhead
      | cons c tail =>
        cases hhead
        exact h tail hsuffix

namespace Cut

theorem Cuts.occurs {cut : Cut} {cs : List Char} {t : Token} {n : Nat} (h : cut.Cuts cs)
    (ht : cut.HasAt t n) : Occurs t n cs := by
  obtain ⟨before, literal, after, htokens, rfl⟩ := ht
  have hmem : (t, literal) ∈ cut.tokens := by simp [htokens]
  refine ⟨h.wellFormed _ hmem, ?_⟩
  rw [← h.text_eq, text, text, htokens, List.flatMap_append, ← List.append_assoc, List.drop_left,
    List.flatMap_cons, List.append_assoc]
  exact List.prefix_append _ _

theorem HasAt.end_le {cut : Cut} {t u : Token} {n m : Nat} (ht : cut.HasAt t n) (hu : cut.HasAt u m)
    (hlt : m < n) : m + u.written.length ≤ n := by
  obtain ⟨leading, tokens⟩ := cut
  obtain ⟨before, literal, after, htokens, rfl⟩ := ht
  obtain ⟨before', literal', after', htokens', rfl⟩ := hu
  have hsame : before ++ (t, literal) :: after = before' ++ (u, literal') :: after' :=
    htokens.symm.trans htokens'
  rcases List.append_eq_append_iff.mp hsame with ⟨between, rfl, -⟩ | ⟨between, rfl, hbehind⟩
  · simp only [text, List.flatMap_append, List.length_append] at hlt
    omega
  · cases between with
    | nil => simp [text] at hlt
    | cons first between =>
      obtain ⟨rfl, -⟩ := List.cons.inj hbehind
      simp only [text, List.flatMap_append, List.flatMap_cons, List.length_append,
        String.length_toList]
      omega

end Cut

/-- No token of the whole template, as it is scanned, is cut through between the two texts. -/
def NoneCutThrough (as bs : List Char) : Prop :=
  ∀ t n, (Cut.ofSegments (segments (as ++ bs))).HasAt t n → n < as.length →
    n + t.written.length ≤ as.length

namespace NoneCutThrough

theorem exists_behind {t : Token} {as bs : List Char} (h : NoneCutThrough as bs) (has : as ≠ [])
    (ht : Occurs t 0 (as ++ bs)) : ∃ behind, as = t.written.toList ++ behind := by
  obtain ⟨hwellFormed, rest, hrest⟩ := ht
  rw [List.drop_zero] at hrest
  have hat : (Cut.ofSegments (segments (as ++ bs))).HasAt t 0 := by
    rw [← hrest, segments_written_append hwellFormed]
    exact Cut.hasAt_pushToken_iff.mpr (.inl ⟨rfl, rfl⟩)
  have hend := h t 0 hat (List.length_pos_iff.mpr has)
  rw [Nat.zero_add, ← String.length_toList] at hend
  obtain ⟨behind, hbehind⟩ :=
    List.prefix_of_prefix_length_le ⟨rest, hrest⟩ (List.prefix_append as bs) hend
  exact ⟨behind, hbehind.symm⟩

theorem behind {t : Token} (ht : t.WellFormed) {as bs : List Char}
    (h : NoneCutThrough (t.written.toList ++ as) bs) : NoneCutThrough as bs := by
  intro u n hu hlt
  rw [NoneCutThrough, List.append_assoc, segments_written_append ht] at h
  have hat := h u (t.written.length + n) (Cut.hasAt_pushToken_iff.mpr (.inr ⟨n, rfl, hu⟩))
  rw [List.length_append, String.length_toList] at hat
  have := hat (by omega)
  omega

theorem tail {a : Char} {as bs : List Char} (hnone : ∀ t, ¬ Occurs t 0 (a :: (as ++ bs)))
    (h : NoneCutThrough (a :: as) bs) : NoneCutThrough as bs := by
  intro t n ht hlt
  rw [NoneCutThrough, List.cons_append, segments_cons_literal hnone] at h
  have hat := h t (n + 1) (Cut.hasAt_push_iff.mpr ⟨n, rfl, ht⟩)
  simp only [List.length_cons] at hat
  have := hat (by omega)
  omega

end NoneCutThrough

/-- Where no token of the whole template is cut through, its pieces are those of the two parts. -/
theorem segments_append_of_cut {as bs : List Char} (h : NoneCutThrough as bs) :
    segments (as ++ bs) = segments as ++ segments bs := by
  induction hlength : as.length using Nat.strongRecOn generalizing as with
  | _ length ih =>
    cases as with
    | nil => rw [List.nil_append, segments, List.nil_append]
    | cons a as =>
      by_cases hfirst : ∃ t, Occurs t 0 (a :: (as ++ bs))
      · obtain ⟨t, ht⟩ := hfirst
        obtain ⟨behind, hbehind⟩ := h.exists_behind (List.cons_ne_nil a as) ht
        rw [hbehind] at h hlength ⊢
        have hshorter : behind.length < length := by
          rw [← hlength, List.length_append, String.length_toList, length_written]
          omega
        rw [List.append_assoc, segments_written_append ht.1, segments_written_append ht.1,
          ih behind.length hshorter (h.behind ht.1) rfl, List.cons_append]
      · have hnone : ∀ t, ¬ Occurs t 0 (a :: (as ++ bs)) := fun t ht => hfirst ⟨t, ht⟩
        -- what is a token in the first part would be one of the whole
        have hnone' : ∀ t, ¬ Occurs t 0 (a :: as) := fun t ht =>
          hnone t ⟨ht.1, ht.2.trans (List.prefix_append (a :: as) bs)⟩
        have hshorter : as.length < length := by simp [← hlength]
        rw [List.cons_append, segments_cons_literal hnone, segments_cons_literal hnone',
          ih as.length hshorter (h.tail hnone) rfl, List.cons_append]

theorem segments_append {as bs : List Char} (h : NoneAcross as bs) :
    segments (as ++ bs) = segments as ++ segments bs := by
  apply segments_append_of_cut
  intro t n ht
  exact h t n ((Cut.cuts_iff.mpr rfl).occurs ht)

theorem segments_around {cut : Cut} {t : Token} {as bs : List Char}
    (hcut : cut.Cuts (as ++ (t.written.toList ++ bs))) (ht : cut.HasAt t as.length) :
    segments (as ++ (t.written.toList ++ bs)) = segments as ++ .token t :: segments bs := by
  have hwellFormed := (hcut.occurs ht).1
  rw [Cut.cuts_iff] at hcut
  subst hcut
  rw [segments_append_of_cut fun u n hu hlt => ht.end_le hu hlt,
    segments_written_append hwellFormed]

theorem BracesClosed.noneAcross {as : List Char} (h : BracesClosed as) (bs : List Char) :
    NoneAcross as bs := by
  rintro t n ⟨ht, rest, hrest⟩ hlt
  rw [List.drop_append_of_le_length (by omega), toList_written] at hrest
  cases hdrop : as.drop n with
  | nil =>
    have hlength := congrArg List.length hdrop
    rw [List.length_drop, List.length_nil] at hlength
    omega
  | cons a tail =>
    rw [hdrop] at hrest
    simp only [List.cons_append, List.append_assoc, List.nil_append, List.cons.injEq] at hrest
    obtain ⟨rfl, hrest⟩ := hrest
    have hclosing : '\x7d' ∈ tail := h tail (hdrop ▸ List.drop_suffix n as)
    obtain ⟨inside, behind, rfl, hopen⟩ := List.eq_append_cons_of_mem hclosing
    rw [List.append_assoc, List.cons_append] at hrest
    have hinside : t.inside = inside :=
      eq_of_append_closeBrace ht.closeBrace_notMem_inside hopen hrest
    have hlength := congrArg List.length hdrop
    simp only [List.length_drop, List.length_cons, List.length_append] at hlength
    rw [length_written, hinside]
    omega

theorem bracesClosed_of_notMem {cs : List Char} (h : '\x7b' ∉ cs) : BracesClosed cs := by
  intro tail htail
  exact absurd (htail.subset (.head _)) h

/-! ## Filling in the parts -/

theorem resolve_written {t : Token} (ht : t.WellFormed) (c : Context) :
    resolve t.written c = (t.value? c).getD t.written := by
  have hsegments := segments_written_append ht []
  rw [List.append_nil, segments] at hsegments
  rw [resolve, hsegments, List.flatMap_singleton, Segment.fill, String.ofList_toList]

theorem resolve_append_of_segments {a b : String} (c : Context)
    (h : segments (a.toList ++ b.toList) = segments a.toList ++ segments b.toList) :
    resolve (a ++ b) c = resolve a c ++ resolve b c := by
  rw [resolve, String.toList_append, h, List.flatMap_append, String.ofList_append]
  rfl

theorem resolve_around {before after : String} {t : Token} {cut : Cut}
    (hcut : cut.Cuts (before ++ t.written ++ after).toList) (ht : cut.HasAt t before.length)
    (c : Context) : resolve (before ++ t.written ++ after) c
      = resolve before c ++ (t.value? c).getD t.written ++ resolve after c := by
  rw [String.append_assoc, String.toList_append, String.toList_append] at hcut
  rw [← String.length_toList] at ht
  rw [String.append_assoc, resolve, String.toList_append, String.toList_append,
    segments_around hcut ht, List.flatMap_append, List.flatMap_cons, String.ofList_append,
    String.ofList_append, Segment.fill, String.ofList_toList, ← String.append_assoc]
  rfl

/-- **Filling in part by part.**  A template that no token is written across is filled in part by
    part.  No token is written across the end of a text whose opening braces are all followed by a
    closing one.  Text without an opening brace can be taken off the front, and a template that has
    not both braces stays as it is. -/
theorem resolve_distributes (c : Context) :
    (∀ a b : String, NoneAcross a.toList b.toList → resolve (a ++ b) c = resolve a c ++ resolve b c)
      ∧ (∀ a b : String, BracesClosed a.toList → resolve (a ++ b) c = resolve a c ++ resolve b c)
      ∧ (∀ a b : String, '\x7b' ∉ a.toList → resolve (a ++ b) c = a ++ resolve b c)
      ∧ ∀ template : String, '\x7b' ∉ template.toList ∨ '\x7d' ∉ template.toList →
        resolve template c = template := by
  have hnone : ∀ a b : String, NoneAcross a.toList b.toList →
      resolve (a ++ b) c = resolve a c ++ resolve b c := by
    intro a b h
    exact resolve_append_of_segments c (segments_append h)
  have hunchanged : ∀ template : String, '\x7b' ∉ template.toList ∨ '\x7d' ∉ template.toList →
      resolve template c = template := by
    intro template h
    apply resolve_of_no_token
    intro t n hoccurs
    obtain ⟨hopening, hclosing⟩ := hoccurs.braces_mem
    rcases h with h | h
    · exact h hopening
    · exact h hclosing
  refine ⟨hnone, ?_, ?_, hunchanged⟩
  · intro a b h
    exact hnone a b (h.noneAcross _)
  · intro a b h
    rw [hnone a b ((bracesClosed_of_notMem h).noneAcross _), hunchanged a (.inl h)]

/-- One guest. -/
def guest : Context := Dict.ofList [("name", "Ada")]

theorem resolve_distributes_guest :
    NoneAcross "\x7b ".toList "\x7bname\x7d".toList
      ∧ resolve ("\x7b " ++ "\x7bname\x7d") guest
        = resolve "\x7b " guest ++ resolve "\x7bname\x7d" guest
      ∧ BracesClosed "Dear \x7btitle|\x7b\x7d ".toList
      ∧ resolve ("Dear \x7btitle|\x7b\x7d " ++ "\x7bname\x7d") guest
        = resolve "Dear \x7btitle|\x7b\x7d " guest ++ resolve "\x7bname\x7d" guest
      ∧ resolve ("Dear " ++ "\x7bname\x7d") guest = "Dear " ++ resolve "\x7bname\x7d" guest
      ∧ resolve "\x7bname" guest = "\x7bname" := by
  obtain ⟨hnone, hclosed, hfront, hunchanged⟩ := resolve_distributes guest
  have hacross : NoneAcross "\x7b ".toList "\x7bname\x7d".toList := by decide
  have hbraces : BracesClosed "Dear \x7btitle|\x7b\x7d ".toList := by decide
  exact ⟨hacross, hnone _ _ hacross, hbraces, hclosed _ _ hbraces, hfront _ _ (by decide),
    hunchanged _ (.inr (by decide))⟩

end BlockMail.Placeholder
