import BlockMail.Json.Printer
import BlockMail.Proofs.Json.Splice

/-! # Printed values are read

A value is printed as a text of its tree: `spells_print`.  Strings come back with the characters
that must be escaped as units of their own, and these make up the same text.
-/

namespace BlockMail.Json

/-! ## Strings -/

/-- How a character is found in a string that was printed. -/
def unitOf (c : Char) : StringUnit :=
  if c ∈ ['\x08', '\x0c', '\n', '\r', '\t'] then .char c
  else if c.toNat < 0x20 then .code c.toNat
  else .char c

/-- What a printed string is written with. -/
def unitsOf (s : String) : List StringUnit := s.toList.map unitOf

theorem hexUnit?_hexChar {n : Nat} (h : n < 0x20) :
    hexUnit? '0' '0' (hexChar (n / 16)) (hexChar (n % 16)) = some n := by
  revert n
  decide

theorem scanString_escapeChar (c : Char) (cs : List Char) :
    scanString (escapeChar c ++ cs) = (scanString cs).map fun r => (unitOf c :: r.1, r.2) := by
  by_cases hquote : c = '"'
  · subst hquote
    rfl
  by_cases hslash : c = '\\'
  · subst hslash
    rfl
  by_cases hnamed : c ∈ ['\x08', '\x0c', '\n', '\r', '\t']
  · simp only [List.mem_cons, List.not_mem_nil, or_false] at hnamed
    rcases hnamed with rfl | rfl | rfl | rfl | rfl <;> rfl
  have hescape : escapeChar c = if c.toNat < 0x20 then
      ['\\', 'u', '0', '0', hexChar (c.toNat / 16), hexChar (c.toNat % 16)] else [c] := by
    simp only [List.mem_cons, List.not_mem_nil, or_false, not_or] at hnamed
    simp [escapeChar, hquote, hslash, hnamed]
  rw [hescape, unitOf, if_neg hnamed]
  by_cases hcontrol : c.toNat < 0x20
  · rw [if_pos hcontrol, if_pos hcontrol]
    simp [scanString, hexUnit?_hexChar hcontrol]
  · rw [if_neg hcontrol, if_neg hcontrol]
    simp [scanString, hslash, hcontrol]

theorem scanString_escaped (cs rest : List Char) :
    scanString (cs.flatMap escapeChar ++ '"' :: rest) = some (cs.map unitOf, rest) := by
  induction cs with
  | nil => rw [List.flatMap_nil, List.nil_append, scanString, List.map_nil]
  | cons c cs ih =>
    rw [List.flatMap_cons, List.append_assoc, scanString_escapeChar, ih]
    rfl

theorem spell?_map_unitOf (cs : List Char) : spell? (cs.map unitOf) = some cs := by
  induction cs with
  | nil => rfl
  | cons c cs ih =>
    have hcontrol (h : c.toNat < 0x20) : loneUnit? c.toNat = some c := by
      rw [loneUnit?, if_neg (by omega), Char.ofNat_toNat]
    rw [List.map_cons, unitOf]
    split
    · simp [spell?, ih]
    · split
      · next h =>
        rw [spell?.eq_def]
        simp [hcontrol h, ih]
      · simp [spell?, ih]

theorem textOf?_unitsOf (s : String) : textOf? (unitsOf s) = some s := by
  rw [textOf?, unitsOf, spell?_map_unitOf, Option.map_some, String.ofList_toList]

theorem tokens_printString (s : String) (x : List Char) :
    tokens (printString s ++ x) = .string (unitsOf s) :: tokens x := by
  refine tokens_of_nextToken? ?_
  have htext : printString s ++ x = '"' :: (s.toList.flatMap escapeChar ++ '"' :: x) := by
    simp [printString]
  rw [htext]
  show nextToken? ('"' :: _) = _
  rw [nextToken?, scanString_escaped]
  rfl

/-! ## Numerals -/

def digitsOf (n : Nat) : List Nat := (Nat.toDigits 10 n).map fun c => c.toNat - '0'.toNat

/-- The numeral that is printed for a number. -/
def Number.numeral : Number → Numeral
  | .integer n => ⟨n < 0, digitsOf n.natAbs, none, none⟩
  | .decimal negative significand exponent =>
    ⟨negative, digitsOf significand, none, some (exponent < 0, digitsOf exponent.natAbs)⟩

theorem ofDigits_digitsOf (n : Nat) : ofDigits (digitsOf n) = n := by
  have hdigits : ofDigits (digitsOf n) = Nat.ofDigitChars 10 (Nat.toDigits 10 n) 0 := by
    simp only [ofDigits, digitsOf, List.foldl_map, Nat.ofDigitChars_eq_foldl, Nat.mul_comm]
  rw [hdigits, Nat.ofDigitChars_ten_toDigits]

/-- No digit follows. -/
def Stops (x : List Char) : Prop := ∀ c ∈ x.head?, c.isDigit = false

theorem scanDigits_toDigits (n : Nat) {x : List Char} (hx : Stops x) :
    scanDigits (Nat.toDigits 10 n ++ x) = (digitsOf n, x) := by
  have hdigits : ∀ c ∈ Nat.toDigits 10 n, c.isDigit = true :=
    fun c hc => Nat.isDigit_of_mem_toDigits (by decide) (by decide) hc
  have htake : x.takeWhile Char.isDigit = [] := by
    cases x with
    | nil => rfl
    | cons c x => simp [hx c rfl]
  have hdrop : x.dropWhile Char.isDigit = x := by
    cases x with
    | nil => rfl
    | cons c x => simp [hx c rfl]
  unfold scanDigits digitsOf
  rw [List.takeWhile_append_of_pos hdigits, List.dropWhile_append_of_pos hdigits, htake, hdrop,
    List.append_nil]

theorem digitChar_ne_zero : ∀ n < 10, n ≠ 0 → n.digitChar ≠ '0' := by decide

theorem exists_toDigits_eq (n : Nat) :
    Nat.toDigits 10 n = ['0'] ∨ ∃ c cs, Nat.toDigits 10 n = c :: cs ∧ c ≠ '0' := by
  induction n using Nat.strongRecOn with
  | ind n ih =>
    rw [Nat.toDigits_eq_if (by decide)]
    by_cases hn : n < 10
    · rw [if_pos hn]
      by_cases hzero : n = 0
      · exact .inl (by rw [hzero]; rfl)
      · exact .inr ⟨n.digitChar, [], rfl, digitChar_ne_zero n hn hzero⟩
    · rw [if_neg hn]
      rcases ih (n / 10) (by omega) with hzero | ⟨c, cs, hcs, hc⟩
      · have hvalue := Nat.ofDigitChars_ten_toDigits (n := n / 10)
        rw [hzero] at hvalue
        have hsmall : n / 10 = 0 := hvalue.symm
        omega
      · exact .inr ⟨c, _, by rw [hcs, List.cons_append], hc⟩

theorem scanWhole?_toDigits (n : Nat) {x : List Char} (hx : Stops x) :
    scanWhole? (Nat.toDigits 10 n ++ x) = some (digitsOf n, x) := by
  rcases exists_toDigits_eq n with hzero | ⟨c, cs, hcs, hc⟩
  · have hrest : (scanDigits x).1 = [] := by
      cases x with
      | nil => rfl
      | cons c x => simp [scanDigits, hx c rfl]
    have hdigits : digitsOf n = [0] := by rw [digitsOf, hzero]; rfl
    rw [hzero, hdigits, List.singleton_append, scanWhole?, if_pos hrest]
  · have hdigits : digitsOf n ≠ [] := by simp [digitsOf, hcs]
    have hscan := scanDigits_toDigits n hx
    rw [hcs, List.cons_append] at hscan ⊢
    rw [scanWhole?, scanSomeDigits?, hscan, if_neg hdigits]
    simpa using hc

theorem toList_toString (n : Int) :
    (toString n).toList = (if n < 0 then ['-'] else []) ++ Nat.toDigits 10 n.natAbs := by
  rw [Int.toString_eq_repr, Int.repr_eq_if]
  by_cases hn : n < 0
  · have hnot : ¬ 0 ≤ n := by omega
    have habs : (-n).toNat = n.natAbs := by omega
    rw [if_neg hnot, if_pos hn, String.toList_append, Nat.toList_repr, habs]
    rfl
  · have hpos : 0 ≤ n := by omega
    have habs : n.toNat = n.natAbs := by omega
    rw [if_pos hpos, if_neg hn, Nat.toList_repr, habs, List.nil_append]

theorem stops_nil : Stops [] := nofun

theorem exists_toDigits_cons (n : Nat) :
    ∃ c cs, Nat.toDigits 10 n = c :: cs ∧ c.isDigit = true := by
  obtain ⟨c, cs, hcs⟩ := List.exists_cons_of_ne_nil (Nat.toDigits_ne_nil (n := n) (b := 10))
  have hc : c ∈ Nat.toDigits 10 n := hcs ▸ List.mem_cons_self
  exact ⟨c, cs, hcs, Nat.isDigit_of_mem_toDigits (by decide) (by decide) hc⟩

theorem scan?_signed (negative : Bool) (n : Nat) {x : List Char} {e : Option (Bool × List Nat)}
    (hstops : Stops x) (hfraction : scanFraction? x = some (none, x))
    (hexponent : scanExponent? x = some (e, [])) :
    Numeral.scan? ((if negative then ['-'] else []) ++ Nat.toDigits 10 n ++ x)
      = some (⟨negative, digitsOf n, none, e⟩, []) := by
  have hunsigned : Numeral.scanUnsigned? negative (Nat.toDigits 10 n ++ x)
      = some (⟨negative, digitsOf n, none, e⟩, []) := by
    simp [Numeral.scanUnsigned?, scanWhole?_toDigits n hstops, hfraction, hexponent]
  cases negative with
  | true => exact (Numeral.scan?_cons '-' _).trans hunsigned
  | false =>
    obtain ⟨c, cs, hcs, hc⟩ := exists_toDigits_cons n
    have hminus : c ≠ '-' := by
      rintro rfl
      cases hc
    rw [hcs] at hunsigned
    rw [hcs]
    exact (Numeral.scan?_cons c _).trans ((if_neg hminus).trans hunsigned)

theorem scanExponent?_toString (n : Int) : scanExponent? ('e' :: (toString n).toList)
    = some (some (decide (n < 0), digitsOf n.natAbs), []) := by
  have hdigits : scanSomeDigits? (Nat.toDigits 10 n.natAbs) = some (digitsOf n.natAbs, []) := by
    have hscan := scanDigits_toDigits n.natAbs stops_nil
    have hne : digitsOf n.natAbs ≠ [] := by simp [digitsOf, Nat.toDigits_ne_nil]
    rw [List.append_nil] at hscan
    rw [scanSomeDigits?, hscan, if_neg hne]
  rw [toList_toString]
  by_cases hn : n < 0
  · rw [if_pos hn, List.singleton_append]
    simp [scanExponent?, hdigits, hn]
  · obtain ⟨c, cs, hcs, hc⟩ := exists_toDigits_cons n.natAbs
    have hminus : c ≠ '-' := by
      rintro rfl
      cases hc
    have hplus : c ≠ '+' := by
      rintro rfl
      cases hc
    rw [hcs] at hdigits
    rw [if_neg hn, List.nil_append, hcs]
    simp [scanExponent?, hminus, hplus, hdigits, hn]

theorem scan?_printNumber (n : Number) : Numeral.scan? (printNumber n) = some (n.numeral, []) := by
  cases n with
  | integer n =>
    have hscan := scan?_signed (decide (n < 0)) n.natAbs stops_nil rfl rfl
    rw [List.append_nil] at hscan
    rw [printNumber, toList_toString]
    simpa [Number.numeral] using hscan
  | decimal negative significand exponent =>
    have hscan := scan?_signed negative significand (x := 'e' :: (toString exponent).toList)
      (fun c hc => Option.some.inj hc ▸ rfl) rfl (scanExponent?_toString exponent)
    have hdigits : (toString significand).toList = Nat.toDigits 10 significand := Nat.toList_repr
    rw [printNumber, hdigits]
    exact hscan

theorem tokens_nil : tokens [] = [] := by
  rw [tokens]
  rfl

theorem isSpace_of_isDigit {c : Char} (h : c.isDigit = true) : isSpace c = false := by
  rw [Bool.eq_false_iff]
  intro hspace
  simp only [isSpace, Bool.or_eq_true, decide_eq_true_eq] at hspace
  rcases hspace with ((rfl | rfl) | rfl) | rfl <;> cases h

theorem tokens_printNumber (n : Number) : tokens (printNumber n) = [.number n.numeral] := by
  have hscan := scan?_printNumber n
  cases hprint : printNumber n with
  | nil =>
    rw [hprint] at hscan
    cases hscan
  | cons c cs =>
    rw [hprint] at hscan
    have hhead := Numeral.head_of_scan? hscan
    have hspace : isSpace c = false := by
      rcases hhead with rfl | hdigit
      · rfl
      · exact isSpace_of_isDigit hdigit
    have hnext : nextToken? ((c :: cs).dropWhile isSpace) = some (.number n.numeral, []) := by
      rw [List.dropWhile_cons_of_neg (by simp [hspace]), nextToken?_of_numeral hhead, hscan]
      rfl
    rw [tokens_of_nextToken? hnext, tokens_nil]

/-! ## Values -/

mutual

/-- The tree that is printed for a value. -/
def Value.tree : Value → Tree
  | .null => .null
  | .bool b => .bool b
  | .number n => .number n.numeral
  | .string s => .string (unitsOf s)
  | .array items => .array (itemTrees items)
  | .object members => .object (memberTrees members)

def itemTrees : List Value → List Tree
  | [] => []
  | v :: vs => v.tree :: itemTrees vs

def memberTrees : List (String × Value) → List (List StringUnit × Tree)
  | [] => []
  | (name, v) :: ms => (unitsOf name, v.tree) :: memberTrees ms

end

theorem printItems_eq (vs : List Value) :
    printItems vs = [','].intercalate (vs.map Value.print) := by
  induction vs with
  | nil => rfl
  | cons v vs ih =>
    cases vs with
    | nil => rw [printItems, List.map_singleton, List.intercalate_singleton]
    | cons w vs =>
      rw [printItems, ih]
      · simp [List.intercalate_cons_cons]
      · nofun

theorem itemTrees_eq (vs : List Value) : itemTrees vs = vs.map Value.tree := by
  induction vs with
  | nil => rfl
  | cons v vs ih => rw [itemTrees, ih, List.map_cons]

theorem memberTrees_eq (ms : List (String × Value)) :
    memberTrees ms = ms.map fun m => (unitsOf m.1, m.2.tree) := by
  induction ms with
  | nil => rfl
  | cons m ms ih =>
    obtain ⟨name, v⟩ := m
    rw [memberTrees, ih, List.map_cons]

def printMember (m : String × Value) : List Char := printString m.1 ++ ':' :: m.2.print

theorem printMembers_eq (ms : List (String × Value)) :
    printMembers ms = [','].intercalate (ms.map printMember) := by
  induction ms with
  | nil => rfl
  | cons m ms ih =>
    obtain ⟨name, v⟩ := m
    cases ms with
    | nil => rw [printMembers, List.map_singleton, List.intercalate_singleton, printMember]
    | cons m' ms =>
      rw [printMembers, ih]
      · simp [List.intercalate_cons_cons, printMember]
      · nofun

theorem tokens_colon (x : List Char) : tokens (':' :: x) = .colon :: tokens x :=
  tokens_of_nextToken? rfl

theorem tokens_openObject (x : List Char) : tokens ('\x7b' :: x) = .openObject :: tokens x :=
  tokens_of_nextToken? rfl

theorem tokens_closeObject (x : List Char) : tokens ('\x7d' :: x) = .closeObject :: tokens x :=
  tokens_of_nextToken? rfl

open Builder (Spells put)

theorem run_member {m : String × Value} (h : Spells m.2.print m.2.tree)
    (done : List (List StringUnit × Tree)) (outer : List Frame) {x : List Char} (hx : Delimited x) :
    (Builder.name done outer).run (tokens (printMember m ++ x))
      = (Builder.member ((unitsOf m.1, m.2.tree) :: done) outer).run (tokens x) := by
  rw [printMember, List.append_assoc, tokens_printString, List.cons_append, tokens_colon]
  exact h.run_append hx (.member done (unitsOf m.1) :: outer)

theorem run_members {m : String × Value} {ms : List (String × Value)}
    (h : ∀ m' ∈ m :: ms, Spells m'.2.print m'.2.tree) (done : List (List StringUnit × Tree))
    (outer : List Frame) (x : List Char) :
    (Builder.name done outer).run
        (tokens ([','].intercalate ((m :: ms).map printMember) ++ '\x7d' :: x))
      = (put (.object (done.reverse ++ memberTrees (m :: ms))) outer).run (tokens x) := by
  -- on the members behind the first, which is done when the next one is reached
  have hm := h m (.head _)
  induction ms generalizing m done with
  | nil =>
    rw [List.map_singleton, List.intercalate_singleton, run_member hm done outer .closeObject,
      tokens_closeObject]
    simp [Builder.run, Builder.step, memberTrees_eq]
  | cons m' ms ih =>
    rw [List.map_cons, List.map_cons, List.intercalate_cons_cons, List.append_assoc,
      List.append_assoc, List.singleton_append, run_member hm done outer .comma,
      Builder.tokens_comma, ← List.map_cons]
    show (Builder.name ((unitsOf m.1, m.2.tree) :: done) outer).run _ = _
    rw [ih (fun n hn => h n (.tail _ hn)) _ (h m' (.tail _ (.head _)))]
    simp [memberTrees_eq]

theorem run_firstName (s : String) (x : List Char) (outer : List Frame) :
    (Builder.firstName outer).run (tokens (printString s ++ x))
      = (Builder.name [] outer).run (tokens (printString s ++ x)) := by
  rw [tokens_printString]
  rfl

theorem spells_object {ms : List (String × Value)}
    (h : ∀ m ∈ ms, Spells m.2.print m.2.tree) :
    Spells (Value.object ms).print (Value.object ms).tree := by
  unfold Spells
  rw [Value.print, Value.tree, printMembers_eq, List.cons_append, tokens_openObject]
  show (Builder.firstName []).run _ = _
  cases ms with
  | nil =>
    rw [List.map_nil, List.intercalate_nil, List.nil_append, tokens_closeObject, tokens_nil]
    rfl
  | cons m ms =>
    have hrun := run_members h [] [] []
    rw [tokens_nil] at hrun
    refine .trans ?_ hrun
    obtain ⟨x, hx⟩ : ∃ x, [','].intercalate ((m :: ms).map printMember) ++ ['\x7d']
        = printString m.1 ++ x := by
      cases ms with
      | nil => exact ⟨_, by rw [List.map_singleton, List.intercalate_singleton, printMember,
          List.append_assoc]⟩
      | cons m' ms => exact ⟨_, by rw [List.map_cons, List.map_cons, List.intercalate_cons_cons,
          printMember, List.append_assoc, List.append_assoc, List.append_assoc]⟩
    rw [hx, run_firstName]

theorem spells_array {vs : List Value}
    (h : ∀ v ∈ vs, Spells v.print v.tree) :
    Spells (Value.array vs).print (Value.array vs).tree := by
  have hall : List.Forall₂ Spells (vs.map Value.print) (vs.map Value.tree) := by
    rw [List.forall₂_map_left_iff, List.forall₂_map_right_iff, List.forall₂_same]
    exact h
  have hrun := Builder.run_list hall [] []
  rw [tokens_nil] at hrun
  unfold Spells
  rw [Value.print, Value.tree, printItems_eq, itemTrees_eq]
  exact hrun

theorem tokens_literal {c : Char} {cs : List Char} {t : Token}
    (h : nextToken? ((c :: cs).dropWhile isSpace) = some (t, [])) : tokens (c :: cs) = [t] := by
  rw [tokens_of_nextToken? h, tokens_nil]

theorem tokens_string (s : String) : tokens (printString s) = [.string (unitsOf s)] := by
  have htokens := tokens_printString s []
  rwa [List.append_nil, tokens_nil] at htokens

theorem spells_token {v : Value} {t : Token} (htokens : tokens v.print = [t])
    (hstart : Builder.start [] t = some (put v.tree [])) : Spells v.print v.tree := by
  have hstep : (Builder.value []).step t = some (put v.tree []) := hstart
  unfold Spells
  rw [htokens, Builder.run_cons hstep]
  rfl

mutual

/-- What is printed for a value is a text of its tree. -/
theorem spells_print : ∀ v : Value, Spells v.print v.tree
  | .null => spells_token (t := .null) (tokens_literal rfl) rfl
  | .bool true => spells_token (t := .bool true) (tokens_literal rfl) rfl
  | .bool false => spells_token (t := .bool false) (tokens_literal rfl) rfl
  | .number n => spells_token (tokens_printNumber n) rfl
  | .string s => spells_token (tokens_string s) rfl
  | .array items => spells_array (spells_items items)
  | .object members => spells_object (spells_members members)

theorem spells_items : ∀ items : List Value, ∀ v ∈ items, Spells v.print v.tree
  | [] => List.forall_mem_nil _
  | v :: vs => List.forall_mem_cons.mpr ⟨spells_print v, spells_items vs⟩

theorem spells_members : ∀ members : List (String × Value), ∀ m ∈ members, Spells m.2.print m.2.tree
  | [] => List.forall_mem_nil _
  | (_, v) :: ms => List.forall_mem_cons.mpr ⟨spells_print v, spells_members ms⟩

end

/-- A value is read back from its text as the tree that was printed. -/
theorem read_toText (v : Value) : (read v.toText).tree? = some v.tree := by
  rw [tree?_eq_some_iff, Value.toText, String.toList_ofList]
  exact spells_print v

end BlockMail.Json
