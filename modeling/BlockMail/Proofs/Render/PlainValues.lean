import BlockMail.Proofs.Html.Nesting
import BlockMail.Proofs.Placeholder.Grammar
import BlockMail.Proofs.Text.Lines
import BlockMail.Render.Html

/-! # Plain values

Whatever a fragment shows is put together from the strings of the block, the values of the
context and the strings of the branding.  Trimming, cutting into words and lines, filling in
and writing in small letters bring in no bracket and no quote, so what is made from plain
strings is plain.
-/

namespace BlockMail

open Html (Plain isPlainChar)

/-- The text, if there is one, is plain. -/
def PlainIfAny (value : Option String) : Prop := ∀ s ∈ value, Plain s

namespace PlainIfAny

variable {value other : Option String} {s : String}

theorem some (h : Plain s) : PlainIfAny (some s) := fun _ ht => Option.some.inj ht ▸ h

theorem getD (h : PlainIfAny value) (hs : Plain s) : Plain (value.getD s) := by
  cases value with
  | none => exact hs
  | some t => exact h t rfl

theorem or (h : PlainIfAny value) (hother : PlainIfAny other) : PlainIfAny (value.or other) := by
  cases value with
  | none => exact hother
  | some t => exact h

theorem filter (h : PlainIfAny value) (p : String → Bool) : PlainIfAny (value.filter p) :=
  fun s hs => h s (Option.eq_some_of_filter_eq_some hs)

theorem present? (h : PlainIfAny value) : PlainIfAny (Text.present? value) := h.filter _

theorem nonBlank? (h : PlainIfAny value) : PlainIfAny (Text.nonBlank? value) := h.filter _

theorem map {f : String → String} (h : PlainIfAny value) (hf : ∀ s, Plain s → Plain (f s)) :
    PlainIfAny (value.map f) := by
  intro t ht
  obtain ⟨s, hs, rfl⟩ := Option.map_eq_some_iff.mp ht
  exact hf s (h s hs)

end PlainIfAny

/-! ## Parts of a text -/

namespace Text

variable {s line : String}

theorem plain_ofList {cs : List Char} (hs : Plain s) (h : ∀ c ∈ cs, c ∈ s.toList) :
    Plain (String.ofList cs) :=
  hs.of_subset fun c hc => h c (by rwa [String.toList_ofList] at hc)

theorem plain_trim (h : Plain s) : Plain (trim s) :=
  plain_ofList h fun _ hc => mem_of_mem_trimChars hc

theorem plain_squeeze (h : Plain s) : Plain (squeeze s) :=
  plain_ofList h fun _ hc => (List.mem_filter.mp hc).1

theorem plain_firstWord? (h : Plain s) : PlainIfAny (firstWord? s) := by
  intro word hword
  unfold firstWord? at hword
  split at hword
  · cases hword
  · cases hword
    refine plain_ofList h fun c hc => ?_
    exact (List.dropWhile_sublist _).subset ((List.takeWhile_sublist _).subset hc)

theorem mem_of_mem_piecesAt {isSeparator : Char → Bool} {cs piece : List Char}
    (h : piece ∈ piecesAt isSeparator cs) {c : Char} (hc : c ∈ piece) : c ∈ cs := by
  induction cs generalizing piece with
  | nil =>
    rw [piecesAt, List.mem_singleton] at h
    exact h ▸ hc
  | cons a cs ih =>
    cases ha : isSeparator a with
    | true =>
      rw [piecesAt_cons_separator cs ha] at h
      cases h with
      | head => cases hc
      | tail _ h => exact .tail _ (ih h hc)
    | false =>
      obtain ⟨first, rest, hcs⟩ := exists_piecesAt_cons isSeparator cs
      rw [piecesAt_cons_other ha hcs] at h
      cases h with
      | head =>
        cases hc with
        | head => exact .head _
        | tail _ hc => exact .tail _ (ih (by rw [hcs]; exact .head _) hc)
      | tail _ h => exact .tail _ (ih (by rw [hcs]; exact .tail _ h) hc)

theorem plain_of_mem_bulletLines (h : Plain s) (hline : line ∈ bulletLines s) : Plain line := by
  unfold bulletLines at hline
  obtain ⟨trimmed, hfiltered, rfl⟩ := List.mem_map.mp hline
  obtain ⟨cs, hcs, rfl⟩ := List.mem_map.mp (List.mem_filter.mp hfiltered).1
  obtain ⟨piece, hpiece, hsub⟩ := exists_piece_of_mem_lines hcs
  exact plain_ofList h fun c hc => mem_of_mem_piecesAt hpiece (hsub c (mem_of_mem_trimChars hc))

theorem plain_of_mem_plainLines (h : Plain s) (hline : line ∈ plainLines s) : Plain line := by
  unfold plainLines at hline
  obtain ⟨cs, hcs, rfl⟩ := List.mem_map.mp hline
  obtain ⟨piece, hpiece, rfl⟩ := List.mem_map.mp hcs
  exact plain_ofList h fun c hc => mem_of_mem_piecesAt hpiece (mem_of_mem_dropReturn hc)

/-! ## Small letters -/

theorem isPlainChar_of_le {c : Char} (h : 0x3F ≤ c.toNat) : isPlainChar c = true := by
  have hne : ∀ d : Char, d.toNat < 0x3F → c ≠ d := fun d hd heq => by
    rw [heq] at h
    omega
  simp [isPlainChar, hne '<' (by decide), hne '>' (by decide), hne '"' (by decide)]

theorem isPlainChar_ofNat {n : Nat} (h : 0x3F ≤ n) : isPlainChar (Char.ofNat n) = true := by
  by_cases hn : n.isValidChar
  · refine isPlainChar_of_le ?_
    rw [Char.ofNat, dif_pos hn]
    exact h
  · rw [Char.ofNat, dif_neg hn]
    decide

theorem le_image_of_mem_smallRuns : ∀ r ∈ smallRuns, 0x3F ≤ r.image := by
  decide +kernel

theorem isPlainChar_of_mem_smallOf {before after : List Char} {c d : Char}
    (hc : isPlainChar c = true) (hd : d ∈ smallOf before c after) : isPlainChar d = true := by
  unfold smallOf at hd
  split at hd
  · split at hd <;> cases List.mem_singleton.mp hd <;> decide
  · split at hd
    · have hall : ∀ d ∈ ['i', '\u0307'], isPlainChar d = true :=
        List.forall_mem_cons.mpr ⟨by decide, List.forall_mem_singleton.mpr (by decide)⟩
      exact hall d hd
    · split at hd
      · next n hn =>
        cases List.mem_singleton.mp hd
        obtain ⟨r, hr, hmap⟩ := List.exists_of_findSome?_eq_some hn
        have himage := le_image_of_mem_smallRuns r hr
        unfold CaseRun.map? at hmap
        split at hmap
        · cases hmap
          exact isPlainChar_ofNat (by omega)
        · cases hmap
      · cases List.mem_singleton.mp hd
        exact hc

theorem plain_smallLetters (h : Plain s) : Plain (smallLetters s) := by
  unfold Plain smallLetters
  rw [String.toList_ofList]
  unfold Plain at h
  generalize s.toList = cs at h
  generalize [] = before
  induction cs generalizing before with
  | nil => nofun
  | cons c cs ih =>
    rw [smallFrom]
    refine List.forall_mem_append.mpr ⟨fun d hd => ?_, ih (fun d hd => h d (.tail _ hd)) _⟩
    exact isPlainChar_of_mem_smallOf (h c (.head _)) hd

theorem plain_toString (n : Nat) : Plain (toString n) := by
  intro c hc
  have hdigit := Nat.isDigit_of_mem_toDigits (by decide) (by decide) (Nat.toList_repr ▸ hc)
  have hne : ∀ d : Char, d.isDigit = false → c ≠ d := fun d hd heq => by
    rw [heq, hd] at hdigit
    cases hdigit
  simp [isPlainChar, hne '<' rfl, hne '>' rfl, hne '"' rfl]

end Text

/-! ## Placeholders -/

/-- Every value is plain. -/
def Context.Plain (c : Context) : Prop := ∀ e ∈ c.entries, Html.Plain e.2

namespace Context

variable {c : Context}

theorem Plain.lookup (h : c.Plain) (key : String) : PlainIfAny (Dict.get? c key) := by
  intro s hs
  obtain ⟨e, he, rfl⟩ := Option.map_eq_some_iff.mp hs
  exact h e (List.mem_of_find?_eq_some he)

theorem Plain.get? (h : c.Plain) (key : String) : PlainIfAny (c.get? key) := (h.lookup key).present?

theorem Plain.getNonBlank? (h : c.Plain) (key : String) : PlainIfAny (c.getNonBlank? key) :=
  (h.lookup key).nonBlank?

end Context

namespace Placeholder

variable {c : Context} {template : String}

theorem plain_value? {t : Token} (ht : PlainIfAny t.fallback) (hc : c.Plain) :
    PlainIfAny (t.value? c) := by
  unfold Token.value?
  split
  · exact .some (((hc.getNonBlank? t.key).filter _).getD (.lit rfl))
  · split
    · exact .some (((hc.getNonBlank? t.key).or ht.present?).getD (.lit rfl))
    · exact (hc.get? t.key).or ht.present?

theorem mem_written_of_mem_fallback {t : Token} {f : String} (hf : f ∈ t.fallback) {ch : Char}
    (h : ch ∈ f.toList) : ch ∈ t.written.toList := by
  rw [toList_written, Token.inside, Token.ending, hf]
  simp [h]

theorem plain_fill (hc : c.Plain) {cs : List Char} (hcs : ∀ ch ∈ cs, isPlainChar ch = true) :
    ∀ s ∈ segments cs, ∀ ch ∈ s.fill c, isPlainChar ch = true := by
  fun_induction segments cs with
  | case1 =>
    intro s hs
    cases hs
  | case2 cs t rest hscan ih =>
    rw [written_of_scanToken? hscan] at hcs
    obtain ⟨hwritten, hrest⟩ := List.forall_mem_append.mp hcs
    refine List.forall_mem_cons.mpr ⟨?_, ih hrest⟩
    have hfallback : PlainIfAny t.fallback := fun f hf ch hch =>
      hwritten ch (mem_written_of_mem_fallback hf hch)
    exact (plain_value? hfallback hc).getD hwritten
  | case3 cs hscan ih | case4 ch cs hch ih =>
    obtain ⟨hfirst, hrest⟩ := List.forall_mem_cons.mp hcs
    refine List.forall_mem_cons.mpr ⟨fun ch hch => ?_, ih hrest⟩
    rw [Segment.fill, List.mem_singleton] at hch
    rw [hch]
    exact hfirst

theorem plain_resolve (ht : Plain template) (hc : c.Plain) : Plain (resolve template c) := by
  unfold resolve Plain
  rw [String.toList_ofList]
  intro ch hch
  obtain ⟨s, hs, hch⟩ := List.mem_flatMap.mp hch
  exact plain_fill hc ht s hs ch hch

theorem plain_resolve? {template : Option String} (ht : PlainIfAny template) (hc : c.Plain) :
    PlainIfAny (resolve? template c) :=
  ht.present?.map fun _ hs => plain_resolve hs hc

theorem plain_resolveKey (key : String) {fallback : String} (hf : Plain fallback) (hc : c.Plain) :
    Plain (resolveKey key fallback c) :=
  (plain_value? (.some hf) hc).getD hf

end Placeholder

end BlockMail
