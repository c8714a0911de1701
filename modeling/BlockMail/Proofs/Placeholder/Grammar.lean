import BlockMail.Placeholder
import Mathlib.Data.List.TakeWhile

/-! # The grammar of tokens

Which texts are tokens is said here without a scanner: an opening brace, a key, perhaps a
bar and a fallback, and a closing brace.  The scanner reads just these texts, so at any place
of a template at most one token is written.

A token can be written inside another one, but only in its fallback, and then both end at the
same closing brace.
-/

namespace BlockMail.Placeholder

/-- The key is not empty and made of key characters, the fallback has no closing brace. -/
structure Token.WellFormed (t : Token) : Prop where
  key_ne_nil : t.key.toList ≠ []
  key_chars : ∀ c ∈ t.key.toList, isKeyChar c = true
  fallback_open : ∀ f, t.fallback = some f → '\x7d' ∉ f.toList

instance (t : Token) : Decidable t.WellFormed :=
  decidable_of_iff (t.key.toList ≠ [] ∧ t.key.toList.all isKeyChar = true
      ∧ t.fallback.all (fun f => !f.toList.contains '\x7d') = true) <| by
    simp only [List.all_eq_true, Option.all_eq_true, Bool.not_eq_true', List.contains_eq_mem,
      decide_eq_false_iff_not]
    exact ⟨fun ⟨hne, hkey, hopen⟩ => ⟨hne, hkey, hopen⟩,
      fun ⟨hne, hkey, hopen⟩ => ⟨hne, hkey, hopen⟩⟩

/-- What stands between the key of a token and its closing brace. -/
def Token.ending (t : Token) : List Char :=
  match t.fallback with
  | none => []
  | some f => '|' :: f.toList

/-- What stands between the braces of a token. -/
def Token.inside (t : Token) : List Char := t.key.toList ++ t.ending

/-- A token of the grammar is written in `cs` with `n` characters before it. -/
def Occurs (t : Token) (n : Nat) (cs : List Char) : Prop :=
  t.WellFormed ∧ t.written.toList <+: cs.drop n

/-- The place `n` is in the fallback of a token that is written at `m`. -/
def InFallback (u : Token) (m n : Nat) : Prop :=
  ∃ f, u.fallback = some f ∧ m + u.key.length + 2 ≤ n ∧ n < m + u.key.length + 2 + f.length

/-! ## What is written -/

theorem toList_written (t : Token) : t.written.toList = '\x7b' :: (t.inside ++ ['\x7d']) := by
  unfold Token.written Token.inside Token.ending
  cases t.fallback <;> simp [String.toList_append]

theorem length_written (t : Token) : t.written.length = t.inside.length + 2 := by
  rw [← String.length_toList, toList_written]
  simp

theorem isKeyChar_bar : isKeyChar '|' = false := by decide

theorem isKeyChar_openBrace : isKeyChar '\x7b' = false := by decide

theorem isKeyChar_closeBrace : isKeyChar '\x7d' = false := by decide

namespace Token.WellFormed

variable {t : Token}

theorem notMem_key (h : t.WellFormed) {c : Char} (hc : isKeyChar c = false) :
    c ∉ t.key.toList := by
  intro hmem
  rw [h.key_chars c hmem] at hc
  cases hc

theorem closeBrace_notMem_inside (h : t.WellFormed) : '\x7d' ∉ t.inside := by
  have hkey := h.notMem_key isKeyChar_closeBrace
  unfold Token.inside Token.ending
  split
  · simpa using hkey
  · next f hf =>
    have hfallback := h.fallback_open f hf
    simp [hkey, hfallback]

theorem inFallback_of_openBrace (h : t.WellFormed) {k : Nat} (hk : t.inside[k]? = some '\x7b') :
    InFallback t 0 (k + 1) := by
  have hkey := h.notMem_key isKeyChar_openBrace
  have hlength : t.key.toList.length = t.key.length := String.length_toList
  unfold Token.inside at hk
  by_cases hlt : k < t.key.toList.length
  · rw [List.getElem?_append_left hlt] at hk
    exact absurd (List.mem_of_getElem? hk) hkey
  · rw [List.getElem?_append_right (by omega)] at hk
    unfold Token.ending at hk
    split at hk
    · cases hk
    · next f hf =>
      have hbound := (List.getElem?_eq_some_iff.mp hk).1
      simp only [List.length_cons, String.length_toList] at hbound hlt
      have hbar : k - t.key.toList.length ≠ 0 := by
        intro hzero
        rw [hzero] at hk
        cases hk
      simp only [String.length_toList] at hbar
      exact ⟨f, hf, by omega, by omega⟩

end Token.WellFormed

/-! ## The scanner reads the grammar -/

theorem takeWhile_append_stop {α : Type} {p : α → Bool} {as : List α} {b : α} (bs : List α)
    (has : ∀ a ∈ as, p a = true) (hb : p b = false) : (as ++ b :: bs).takeWhile p = as := by
  rw [List.takeWhile_append_of_pos has, List.takeWhile_cons, hb]
  simp

theorem dropWhile_append_stop {α : Type} {p : α → Bool} {as : List α} {b : α} (bs : List α)
    (has : ∀ a ∈ as, p a = true) (hb : p b = false) :
    (as ++ b :: bs).dropWhile p = b :: bs := by
  rw [List.dropWhile_append_of_pos has, List.dropWhile_cons, hb]
  simp

theorem scanEnd?_sound {key : String} {cs rest : List Char} {t : Token}
    (h : scanEnd? key cs = some (t, rest)) :
    t.key = key ∧ (∀ f, t.fallback = some f → '\x7d' ∉ f.toList)
      ∧ cs = t.ending ++ '\x7d' :: rest := by
  unfold scanEnd? at h
  split at h
  · cases h
    exact ⟨rfl, fun f hf => (by cases hf), rfl⟩
  · next tail =>
    split at h
    · cases h
    · next c after hafter =>
      cases h
      have hcut := List.takeWhile_append_dropWhile (p := (· != '\x7d')) (l := tail)
      have hc := List.head?_dropWhile_not (· != '\x7d') tail
      rw [hafter] at hcut hc
      have hc : c = '\x7d' := by simpa using hc
      refine ⟨rfl, fun f hf hmem => ?_, ?_⟩
      · cases hf
        rw [String.toList_ofList] at hmem
        have := List.mem_takeWhile_imp hmem
        cases this
      · rw [hc] at hcut
        simp [Token.ending, hcut]
  · cases h

theorem scanEnd?_complete (t : Token) (rest : List Char)
    (h : ∀ f, t.fallback = some f → '\x7d' ∉ f.toList) :
    scanEnd? t.key (t.ending ++ '\x7d' :: rest) = some (t, rest) := by
  obtain ⟨key, fallback⟩ := t
  cases fallback with
  | none => rfl
  | some f =>
    have hopen : ∀ c ∈ f.toList, (c != '\x7d') = true := by
      intro c hc
      rw [bne_iff_ne]
      intro hbrace
      exact h f rfl (hbrace ▸ hc)
    show scanEnd? key ('|' :: (f.toList ++ '\x7d' :: rest)) = _
    simp only [scanEnd?]
    rw [dropWhile_append_stop rest hopen rfl, takeWhile_append_stop rest hopen rfl,
      String.ofList_toList]

theorem exists_stop (t : Token) (rest : List Char) :
    ∃ b bs, t.ending ++ '\x7d' :: rest = b :: bs ∧ isKeyChar b = false := by
  unfold Token.ending
  cases t.fallback with
  | none => exact ⟨_, _, rfl, isKeyChar_closeBrace⟩
  | some f => exact ⟨_, _, rfl, isKeyChar_bar⟩

/-- The scanner reads a token behind its opening brace, and every token. -/
theorem scanToken?_eq_some_iff {cs rest : List Char} {t : Token} :
    scanToken? cs = some (t, rest) ↔ t.WellFormed ∧ cs = t.inside ++ '\x7d' :: rest := by
  constructor
  · intro h
    unfold scanToken? at h
    split at h
    · cases h
    · next hne =>
      obtain ⟨hkey, hopen, hcs⟩ := scanEnd?_sound h
      have hword : t.key.toList = cs.takeWhile isKeyChar := by rw [hkey, String.toList_ofList]
      refine ⟨⟨hword ▸ hne, fun c hc => ?_, hopen⟩, ?_⟩
      · rw [hword] at hc
        exact List.mem_takeWhile_imp hc
      · rw [Token.inside, hword, List.append_assoc, ← hcs, List.takeWhile_append_dropWhile]
  · rintro ⟨ht, rfl⟩
    obtain ⟨b, bs, hstop, hb⟩ := exists_stop t rest
    unfold scanToken? Token.inside
    rw [List.append_assoc, hstop, takeWhile_append_stop bs ht.key_chars hb,
      dropWhile_append_stop bs ht.key_chars hb, if_neg ht.key_ne_nil, ← hstop,
      String.ofList_toList]
    exact scanEnd?_complete t rest ht.fallback_open

theorem written_of_scanToken? {cs rest : List Char} {t : Token}
    (h : scanToken? cs = some (t, rest)) : '\x7b' :: cs = t.written.toList ++ rest := by
  rw [toList_written, (scanToken?_eq_some_iff.mp h).2]
  simp

/-! ## Occurrences -/

theorem occurs_zero_iff {t : Token} {cs : List Char} :
    Occurs t 0 cs ↔ ∃ tail rest, cs = '\x7b' :: tail ∧ scanToken? tail = some (t, rest) := by
  unfold Occurs
  rw [List.drop_zero, toList_written]
  constructor
  · rintro ⟨ht, rest, rfl⟩
    exact ⟨_, rest, rfl, scanToken?_eq_some_iff.mpr ⟨ht, by simp⟩⟩
  · rintro ⟨tail, rest, rfl, hscan⟩
    obtain ⟨ht, rfl⟩ := scanToken?_eq_some_iff.mp hscan
    exact ⟨ht, rest, by simp⟩

theorem Occurs.unique {t u : Token} {cs : List Char} (ht : Occurs t 0 cs) (hu : Occurs u 0 cs) :
    t = u := by
  obtain ⟨tail, rest, rfl, hscan⟩ := occurs_zero_iff.mp ht
  obtain ⟨tail', rest', htail, hscan'⟩ := occurs_zero_iff.mp hu
  cases htail
  rw [hscan] at hscan'
  cases hscan'
  rfl

theorem occurs_cons_iff {t : Token} {n : Nat} {c : Char} {cs : List Char} :
    Occurs t (n + 1) (c :: cs) ↔ Occurs t n cs := Iff.rfl

theorem occurs_append_iff {t : Token} {n : Nat} (as bs : List Char) :
    Occurs t (as.length + n) (as ++ bs) ↔ Occurs t n bs := by
  have hdrop : (as ++ bs).drop (as.length + n) = bs.drop n := by
    rw [← List.drop_drop, List.drop_left]
  unfold Occurs
  rw [hdrop]

theorem exists_occurs_of_mem_segments {t : Token} {cs : List Char}
    (h : .token t ∈ segments cs) : ∃ n, Occurs t n cs := by
  fun_induction segments cs with
  | case1 => cases h
  | case2 cs u rest hscan ih =>
    rcases List.mem_cons.mp h with heq | hrest
    · cases heq
      exact ⟨0, occurs_zero_iff.mpr ⟨cs, rest, rfl, hscan⟩⟩
    · obtain ⟨n, hn⟩ := ih hrest
      rw [written_of_scanToken? hscan]
      exact ⟨_, (occurs_append_iff u.written.toList rest).mpr hn⟩
  | case3 cs _ ih =>
    rcases List.mem_cons.mp h with heq | hrest
    · cases heq
    · obtain ⟨n, hn⟩ := ih hrest
      exact ⟨n + 1, hn⟩
  | case4 c cs _ ih =>
    rcases List.mem_cons.mp h with heq | hrest
    · cases heq
    · obtain ⟨n, hn⟩ := ih hrest
      exact ⟨n + 1, hn⟩

theorem eq_of_append_closeBrace {as bs cs ds : List Char} (ha : '\x7d' ∉ as) (hc : '\x7d' ∉ cs)
    (h : as ++ '\x7d' :: bs = cs ++ '\x7d' :: ds) : as = cs := by
  have hopen : ∀ {es : List Char}, '\x7d' ∉ es → ∀ e ∈ es, (e != '\x7d') = true := by
    intro es hes e he
    rw [bne_iff_ne]
    rintro rfl
    exact hes he
  have hbrace : ('\x7d' != '\x7d') = false := rfl
  have hleft := takeWhile_append_stop bs (hopen ha) hbrace
  have hright := takeWhile_append_stop ds (hopen hc) hbrace
  rw [← hleft, h, hright]

theorem InFallback.lt_length {u : Token} {m n : Nat} (h : InFallback u m n) :
    n < m + u.written.length := by
  obtain ⟨f, hf, -, hto⟩ := h
  rw [length_written, Token.inside, Token.ending, hf, List.length_append, List.length_cons,
    String.length_toList, String.length_toList]
  omega

/-- A token that starts inside another one starts in its fallback and ends with it. -/
theorem inFallback_of_occurs {t u : Token} {n : Nat} {rest : List Char} (hu : u.WellFormed)
    (hpos : 0 < n) (hlt : n < u.written.length)
    (h : Occurs t n (u.written.toList ++ rest)) :
    InFallback u 0 n ∧ n + t.written.length = u.written.length := by
  obtain ⟨ht, after, hafter⟩ := h
  obtain ⟨k, rfl⟩ : ∃ k, n = k + 1 := ⟨n - 1, by omega⟩
  rw [length_written, length_written]
  rw [length_written] at hlt
  have hdrop : (u.written.toList ++ rest).drop (k + 1) = u.inside.drop k ++ '\x7d' :: rest := by
    rw [toList_written, List.cons_append, List.drop_succ_cons, List.append_assoc,
      List.drop_append_of_le_length (by omega)]
    rfl
  have hopen := hu.closeBrace_notMem_inside
  rw [hdrop, toList_written] at hafter
  cases hk : u.inside.drop k with
  | nil =>
    rw [hk] at hafter
    simp at hafter
  | cons d ds =>
    -- the inside of `u` goes on with the opening brace of `t` and what is inside `t`
    rw [hk] at hafter
    simp only [List.cons_append, List.append_assoc, List.nil_append, List.cons.injEq] at hafter
    obtain ⟨rfl, hafter⟩ := hafter
    have hds : '\x7d' ∉ ds := fun hmem =>
      hopen (List.mem_of_mem_drop (hk ▸ List.mem_cons_of_mem _ hmem))
    have hinside : t.inside = ds := eq_of_append_closeBrace ht.closeBrace_notMem_inside hds hafter
    have hget : u.inside[k]? = some '\x7b' := by
      rw [← List.head?_drop, hk]
      rfl
    have hlength := congrArg List.length hk
    rw [List.length_drop, List.length_cons, ← hinside] at hlength
    exact ⟨hu.inFallback_of_openBrace hget, by omega⟩

end BlockMail.Placeholder
