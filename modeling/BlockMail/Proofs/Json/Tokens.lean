import BlockMail.Json.Tree
import Mathlib.Data.List.TakeWhile

/-! # Texts that go on

Where a bracket or a comma follows, a text is cut into the same tokens as on its own: no
token that is complete reaches into what follows.
-/

namespace BlockMail.Json

/-- The text starts with a bracket of an array, the end of an object or a comma. -/
inductive Delimited : List Char → Prop where
  | openArray : Delimited ('[' :: cs)
  | closeArray : Delimited (']' :: cs)
  | closeObject : Delimited ('\x7d' :: cs)
  | comma : Delimited (',' :: cs)

variable {cs rest x : List Char}

/-! ## Strings -/

theorem scanString_append {us : List StringUnit} (h : scanString cs = some (us, rest))
    (x : List Char) : scanString (cs ++ x) = some (us, rest ++ x) := by
  fun_induction scanString cs generalizing us rest with
  | case1 => cases h
  | case2 cs =>
    cases h
    rw [List.cons_append, scanString]
  | case3 => cases h
  | case4 a b c d cs n hn ih =>
    obtain ⟨r, hr, heq⟩ := Option.map_eq_some_iff.mp h
    cases heq
    simp only [List.cons_append, scanString, hn, ih hr, Option.map_some]
  | case5 => cases h
  | case6 e cs hshort c hc ih =>
    obtain ⟨r, hr, heq⟩ := Option.map_eq_some_iff.mp h
    cases heq
    have hu : e ≠ 'u' := by
      rintro rfl
      cases hc
    simp [scanString, hu, hc, ih hr]
  | case7 => cases h
  | case8 c cs hquote hunit hescape hc ih =>
    obtain ⟨r, hr, heq⟩ := Option.map_eq_some_iff.mp h
    cases heq
    obtain ⟨hcontrol, hne⟩ := not_or.mp hc
    simp [scanString, hne, Nat.not_lt.mp hcontrol, ih hr]

/-! ## Numerals -/

theorem scanDigits_append (cs : List Char) (hx : Delimited x) :
    scanDigits (cs ++ x) = ((scanDigits cs).1, (scanDigits cs).2 ++ x) := by
  induction cs with
  | nil => cases hx <;> rfl
  | cons c cs ih =>
    unfold scanDigits at ih ⊢
    by_cases hc : c.isDigit <;> simp_all

theorem scanSomeDigits?_append {ds : List Nat} (h : scanSomeDigits? cs = some (ds, rest))
    (hx : Delimited x) : scanSomeDigits? (cs ++ x) = some (ds, rest ++ x) := by
  unfold scanSomeDigits? at h ⊢
  rw [scanDigits_append cs hx]
  split at h
  · cases h
  · next hne =>
    rw [if_neg hne]
    simp_all

theorem scanWhole?_append {ds : List Nat} (h : scanWhole? cs = some (ds, rest))
    (hx : Delimited x) : scanWhole? (cs ++ x) = some (ds, rest ++ x) := by
  unfold scanWhole? at h
  split at h
  · next cs =>
    split at h
    · next hlone =>
      cases h
      have hdigits := congrArg Prod.fst (scanDigits_append rest hx)
      simp only [List.cons_append, scanWhole?]
      rw [if_pos (hdigits.trans hlone)]
    · cases h
  · next hzero =>
    have happend := scanSomeDigits?_append h hx
    cases cs with
    | nil => cases h
    | cons c cs =>
      have hc : c ≠ '0' := fun hc => hzero cs (by rw [hc])
      simpa [scanWhole?, hc] using happend

theorem scanFraction?_append {f : Option (List Nat)} (h : scanFraction? cs = some (f, rest))
    (hx : Delimited x) : scanFraction? (cs ++ x) = some (f, rest ++ x) := by
  unfold scanFraction? at h
  split at h
  · obtain ⟨r, hr, heq⟩ := Option.map_eq_some_iff.mp h
    cases heq
    simp only [List.cons_append, scanFraction?, scanSomeDigits?_append hr hx, Option.map_some]
  · next hpoint =>
    cases h
    cases cs with
    | nil => cases hx <;> rfl
    | cons c cs =>
      have hc : c ≠ '.' := fun hc => hpoint cs (by rw [hc])
      simp [scanFraction?, hc]

theorem scanExponent?_append {e : Option (Bool × List Nat)}
    (h : scanExponent? cs = some (e, rest)) (hx : Delimited x) :
    scanExponent? (cs ++ x) = some (e, rest ++ x) := by
  unfold scanExponent? at h
  split at h
  · next c cs =>
    split at h
    · next hc =>
      split at h
      · obtain ⟨r, hr, heq⟩ := Option.map_eq_some_iff.mp h
        cases heq
        simp [scanExponent?, hc, scanSomeDigits?_append hr hx]
      · obtain ⟨r, hr, heq⟩ := Option.map_eq_some_iff.mp h
        cases heq
        simp [scanExponent?, hc, scanSomeDigits?_append hr hx]
      · next hminus hplus =>
        obtain ⟨r, hr, heq⟩ := Option.map_eq_some_iff.mp h
        cases heq
        have happend := scanSomeDigits?_append hr hx
        cases cs with
        | nil => cases hr
        | cons d ds =>
          have hm : d ≠ '-' := fun hd => hminus ds (by rw [hd])
          have hp : d ≠ '+' := fun hd => hplus ds (by rw [hd])
          simp_all [scanExponent?]
    · next hc =>
      cases h
      simp [scanExponent?, hc]
  · cases h
    cases hx <;> rfl

/-- A numeral whose sign has been read. -/
def Numeral.scanUnsigned? (negative : Bool) (cs : List Char) : Option (Numeral × List Char) := do
  let (whole, cs) ← scanWhole? cs
  let (fraction, cs) ← scanFraction? cs
  let (exponent, cs) ← scanExponent? cs
  return (⟨negative, whole, fraction, exponent⟩, cs)

theorem Numeral.scan?_cons (c : Char) (cs : List Char) : Numeral.scan? (c :: cs)
    = if c = '-' then scanUnsigned? true cs else scanUnsigned? false (c :: cs) := by
  by_cases hc : c = '-'
  · subst hc
    rfl
  · rw [if_neg hc]
    unfold Numeral.scan?
    split
    next negative ds heq =>
      split at heq
      · next hminus => exact absurd (List.cons.inj hminus).1 hc
      · cases heq
        rfl

theorem Numeral.scanUnsigned?_append {negative : Bool} {n : Numeral}
    (h : scanUnsigned? negative cs = some (n, rest)) (hx : Delimited x) :
    scanUnsigned? negative (cs ++ x) = some (n, rest ++ x) := by
  simp only [scanUnsigned?, Option.bind_eq_bind, Option.bind_eq_some_iff] at h ⊢
  obtain ⟨w, hw, f, hf, e, he, hr⟩ := h
  cases hr
  exact ⟨(w.1, w.2 ++ x), scanWhole?_append hw hx, (f.1, f.2 ++ x), scanFraction?_append hf hx,
    (e.1, e.2 ++ x), scanExponent?_append he hx, rfl⟩

theorem Numeral.scan?_append {n : Numeral} (h : Numeral.scan? cs = some (n, rest))
    (hx : Delimited x) : Numeral.scan? (cs ++ x) = some (n, rest ++ x) := by
  cases cs with
  | nil => cases h
  | cons c cs =>
    rw [List.cons_append, scan?_cons]
    rw [scan?_cons] at h
    by_cases hc : c = '-'
    · rw [if_pos hc] at h ⊢
      exact scanUnsigned?_append h hx
    · rw [if_neg hc] at h ⊢
      exact scanUnsigned?_append h hx

theorem Numeral.head_of_scan? {c : Char} {r : Numeral × List Char}
    (h : Numeral.scan? (c :: cs) = some r) : c = '-' ∨ c.isDigit := by
  rw [scan?_cons] at h
  by_cases hc : c = '-'
  · exact .inl hc
  · right
    rw [if_neg hc] at h
    simp only [scanUnsigned?, Option.bind_eq_bind, Option.bind_eq_some_iff] at h
    obtain ⟨w, hw, -⟩ := h
    unfold scanWhole? at hw
    split at hw
    · next hzero =>
      cases hzero
      rfl
    · by_cases hdigit : c.isDigit
      · exact hdigit
      · simp [scanSomeDigits?, scanDigits, hdigit] at hw

/-! ## Tokens -/

theorem nextToken?_of_numeral {c : Char} (hc : c = '-' ∨ c.isDigit) (cs : List Char) :
    nextToken? (c :: cs) = (Numeral.scan? (c :: cs)).map fun r => (.number r.1, r.2) := by
  unfold nextToken?
  split
  case h_11 => rfl
  all_goals
    next heq =>
    cases heq
    rcases hc with hc | hc <;> exact absurd hc (by decide)

theorem nextToken?_append {t : Token} (h : nextToken? cs = some (t, rest))
    (hx : Delimited x) : nextToken? (cs ++ x) = some (t, rest ++ x) := by
  unfold nextToken? at h
  split at h
  case h_10 cs =>
    obtain ⟨r, hr, heq⟩ := Option.map_eq_some_iff.mp h
    cases heq
    simp only [List.cons_append, nextToken?, scanString_append hr, Option.map_some]
  case h_11 =>
    obtain ⟨r, hr, heq⟩ := Option.map_eq_some_iff.mp h
    cases heq
    cases cs with
    | nil => cases hr
    | cons c cs =>
      have happend := Numeral.scan?_append hr hx
      rw [List.cons_append] at happend ⊢
      rw [nextToken?_of_numeral (Numeral.head_of_scan? hr), happend, Option.map_some]
  all_goals
    cases h
    rfl

theorem tokens_of_nextToken? {t : Token} (h : nextToken? (cs.dropWhile isSpace) = some (t, rest)) :
    tokens cs = t :: tokens rest := by
  rw [tokens]
  split
  · next heq =>
    rw [h] at heq
    cases heq
    rfl
  · next heq =>
    rw [h] at heq
    cases heq

theorem Delimited.nextToken? (hx : Delimited x) :
    ∃ t y, Json.nextToken? (x.dropWhile isSpace) = some (t, y) := by
  cases hx <;> exact ⟨_, _, rfl⟩

/-- What is cut into tokens without a fault is cut into the same tokens where a text goes on. -/
theorem tokens_append (h : .fault ∉ tokens cs) (hx : Delimited x) :
    tokens (cs ++ x) = tokens cs ++ tokens x := by
  -- on the tokens of the first part, whose spaces may run into what follows
  fun_induction tokens cs with
  | case1 cs t rest hnext ih =>
    obtain ⟨-, hrest⟩ := not_or.mp (mt List.mem_cons.mpr h)
    have hne : cs.dropWhile isSpace ≠ [] := by
      intro hnil
      rw [hnil] at hnext
      cases hnext
    have hskip : (cs ++ x).dropWhile isSpace = cs.dropWhile isSpace ++ x := by
      rw [List.dropWhile_append, if_neg (by simpa using hne)]
    rw [tokens_of_nextToken? (hskip ▸ nextToken?_append hnext hx), ih hrest, List.cons_append]
  | case2 cs hnext hspace =>
    have hnil : cs.dropWhile isSpace = [] :=
      List.dropWhile_eq_nil_iff.mpr (List.all_eq_true.mp hspace)
    have hskip : (cs ++ x).dropWhile isSpace = x.dropWhile isSpace := by
      rw [List.dropWhile_append, if_pos (by simp [hnil])]
    obtain ⟨t, y, hx⟩ := hx.nextToken?
    rw [tokens_of_nextToken? (hskip ▸ hx), tokens_of_nextToken? hx, List.nil_append]
  | case3 => simp at h

end BlockMail.Json
