import BlockMail.Guard.Decision

/-! # Numbers in the environment

The default of a variable counts where the variable is not set to a text, and nowhere else.  A text,
without the white space around it, has to be a numeral whose number is in range: `Gives`.
Of every other text the variable is named as the one that cannot be parsed, and a number beyond the
range is reported as such, however many digits it has.

Both readers look at one digit after the other and stop as soon as the number is beyond the range,
so they are compared with what all digits together denote (`digitsFrom_of_isDigit`).
-/

namespace BlockMail.Settings

/-! ## Digits -/

/-- One decimal digit or more, and the number that they denote. -/
structure Decimal (cs : List Char) (n : Nat) : Prop where
  ne_nil : cs ≠ []
  isDigit : ∀ c ∈ cs, c.isDigit = true
  value : Nat.ofDigitChars 10 cs 0 = n

section Digits

variable {bound n m : Nat} {overflow : IntegerFault} {c : Char} {cs : List Char}

theorem le_ofDigitChars (cs : List Char) (n : Nat) : n ≤ Nat.ofDigitChars 10 cs n := by
  have hshift : n ≤ 10 ^ cs.length * n := Nat.le_mul_of_pos_left n (Nat.pow_pos (by decide))
  rw [Nat.ofDigitChars_eq_ofDigitChars_zero]
  omega

theorem digitsFrom_of_isDigit (hcs : ∀ c ∈ cs, c.isDigit = true) (hn : n ≤ bound) :
    digitsFrom bound overflow n cs
      = if Nat.ofDigitChars 10 cs n ≤ bound then .ok (Nat.ofDigitChars 10 cs n)
        else .error overflow := by
  induction cs generalizing n with
  | nil => rw [digitsFrom, Nat.ofDigitChars_nil, if_pos hn]
  | cons c cs ih =>
    obtain ⟨hc, hcs⟩ := List.forall_mem_cons.mp hcs
    rw [digitsFrom, if_pos hc, Nat.ofDigitChars_cons, Nat.mul_comm 10 n]
    by_cases hnext : n * 10 + (c.toNat - '0'.toNat) ≤ bound
    · rw [if_pos hnext, ih hcs hnext]
    · -- the digits that are left cannot bring the number back into range
      have hle := le_ofDigitChars cs (n * 10 + (c.toNat - '0'.toNat))
      rw [if_neg hnext, if_neg (by omega)]

theorem isDigit_of_digitsFrom (h : digitsFrom bound overflow n cs = .ok m) :
    ∀ c ∈ cs, c.isDigit = true := by
  induction cs generalizing n with
  | nil => exact List.forall_mem_nil _
  | cons c cs ih =>
    rw [digitsFrom] at h
    split at h
    · next hc =>
      simp only at h
      split at h
      · exact List.forall_mem_cons.mpr ⟨hc, ih h⟩
      · cases h
    · cases h

theorem digits_of_ne_nil (h : cs ≠ []) :
    digits bound overflow cs = digitsFrom bound overflow 0 cs := by
  cases cs with
  | nil => exact absurd rfl h
  | cons c cs => rfl

theorem Decimal.digits_eq (h : Decimal cs n) :
    digits bound overflow cs = if n ≤ bound then .ok n else .error overflow := by
  rw [digits_of_ne_nil h.ne_nil, digitsFrom_of_isDigit h.isDigit (Nat.zero_le bound), h.value]

theorem digits_eq_ok_iff : digits bound overflow cs = .ok n ↔ Decimal cs n ∧ n ≤ bound := by
  constructor
  · intro h
    have hne : cs ≠ [] := by
      rintro rfl
      cases h
    have hall : ∀ c ∈ cs, c.isDigit = true :=
      isDigit_of_digitsFrom ((digits_of_ne_nil hne).symm.trans h)
    have hdecimal : Decimal cs (Nat.ofDigitChars 10 cs 0) := ⟨hne, hall, rfl⟩
    rw [hdecimal.digits_eq] at h
    split at h
    · next hle =>
      cases h
      exact ⟨hdecimal, hle⟩
    · cases h
  · rintro ⟨hdecimal, hle⟩
    rw [hdecimal.digits_eq, if_pos hle]

theorem Decimal.head_isDigit (h : Decimal (c :: cs) n) : c.isDigit = true :=
  h.isDigit c List.mem_cons_self

end Digits

/-! ## Numerals -/

/-- Digits behind a sign or without one, and the number that they denote.  Only some numerals may
    have a minus. -/
inductive Numeral (signed : Bool) : List Char → Int → Prop
  | bare {cs : List Char} {n : Nat} (h : Decimal cs n) : Numeral signed cs n
  | plus {cs : List Char} {n : Nat} (h : Decimal cs n) : Numeral signed ('+' :: cs) n
  | minus {cs : List Char} {n : Nat} (hsigned : signed = true) (h : Decimal cs n) :
      Numeral signed ('-' :: cs) (-n)

/-! ## Ranges -/

/-- Which whole numbers are wanted. -/
structure IntegerRange where
  signed : Bool
  least : Int
  greatest : Int

namespace IntegerRange

/-- Numbers of 64 bits with a sign. -/
def signed64 : IntegerRange := ⟨true, Int64.minValue.toInt, Int64.maxValue.toInt⟩

/-- Numbers of 64 bits without a sign. -/
def unsigned64 : IntegerRange := ⟨false, 0, UInt64.size - 1⟩

def Holds (r : IntegerRange) (n : Int) : Prop := r.least ≤ n ∧ n ≤ r.greatest

instance (r : IntegerRange) (n : Int) : Decidable (r.Holds n) :=
  inferInstanceAs (Decidable (_ ∧ _))

end IntegerRange

/-- What is wrong with a number that is not in range. -/
def beyondRange (n : Int) : IntegerFault := if n < 0 then .tooSmall else .tooLarge

open IntegerRange (signed64 unsigned64)

theorem beyondRange_cast (n : Nat) : beyondRange n = .tooLarge :=
  if_neg (Int.not_lt.mpr (Int.natCast_nonneg n))

/-- The reader reads the numerals whose number is in range, and reports the other numerals as too
    great or too small. -/
structure Parses (r : IntegerRange) (parse : List Char → Except IntegerFault Int) : Prop where
  numeral : ∀ {cs n}, Numeral r.signed cs n →
    parse cs = if r.Holds n then .ok n else .error (beyondRange n)
  sound : ∀ {cs n}, parse cs = .ok n → Numeral r.signed cs n ∧ r.Holds n

section Parsing

variable {bound n : Nat} {overflow : IntegerFault} {cs : List Char}

theorem map_eq_ok_iff {ε α β : Type} {x : Except ε α} {f : α → β} {b : β} :
    x.map f = .ok b ↔ ∃ a, x = .ok a ∧ f a = b := by
  cases x <;> simp [Except.map]

theorem unsigned64_holds_iff : unsigned64.Holds n ↔ n ≤ UInt64.size - 1 := by
  simp only [unsigned64, IntegerRange.Holds, UInt64.size]
  omega

theorem natural64_of_decimal (h : Decimal cs n) :
    natural64 cs = digits (UInt64.size - 1) .tooLarge cs := by
  unfold natural64
  split
  · exact absurd rfl h.ne_nil
  · cases h.head_isDigit
  · rfl

theorem parses_natural64 : Parses unsigned64 fun cs => (natural64 cs).map Nat.cast where
  numeral {cs n} h := by
    have hread (cs' : List Char) (m : Nat) (hm : Decimal cs' m)
        (heq : natural64 cs = digits (UInt64.size - 1) .tooLarge cs') : (natural64 cs).map Nat.cast
          = if unsigned64.Holds m then .ok (m : Int) else .error (beyondRange m) := by
      rw [heq, hm.digits_eq, beyondRange_cast]
      simp only [unsigned64_holds_iff]
      split <;> rfl
    cases h with
    | bare h => exact hread _ _ h (natural64_of_decimal h)
    | plus h => exact hread _ _ h rfl
    | minus hsigned => cases hsigned
  sound {cs n} h := by
    obtain ⟨m, hm, rfl⟩ := map_eq_ok_iff.mp h
    rw [unsigned64_holds_iff]
    unfold natural64 at hm
    split at hm
    · cases hm
    · obtain ⟨hdecimal, hle⟩ := digits_eq_ok_iff.mp hm
      exact ⟨.plus hdecimal, hle⟩
    · obtain ⟨hdecimal, hle⟩ := digits_eq_ok_iff.mp hm
      exact ⟨.bare hdecimal, hle⟩

example : natural64 "18446744073709551616".toList = .error .tooLarge := rfl

theorem signed64_holds_iff_of_int {n : Int} :
    signed64.Holds n ↔ -9223372036854775808 ≤ n ∧ n ≤ 9223372036854775807 := Iff.rfl

theorem signed64_holds_iff : signed64.Holds n ↔ n ≤ Nat.pow 2 63 - 1 := by
  have hpow : Nat.pow 2 63 = 9223372036854775808 := rfl
  rw [signed64_holds_iff_of_int, hpow]
  omega

theorem signed64_holds_neg_iff : signed64.Holds (-n) ↔ n ≤ Nat.pow 2 63 := by
  have hpow : Nat.pow 2 63 = 9223372036854775808 := rfl
  rw [signed64_holds_iff_of_int, hpow]
  omega

theorem map_lift (x : Except IntegerFault Nat) (f : Int → Int) :
    Except.map f (do let a ← x; pure (a : Int)) = x.map fun n : Nat => f n := by
  cases x <;> rfl

theorem integer64_minus (cs : List Char) :
    integer64 ('-' :: cs) = (digits (Nat.pow 2 63) .tooSmall cs).map fun n : Nat => -(n : Int) :=
  map_lift _ _

theorem integer64_plus (cs : List Char) :
    integer64 ('+' :: cs) = (digits (Nat.pow 2 63 - 1) .tooLarge cs).map fun n : Nat => (n : Int) :=
  map_lift _ _

theorem integer64_of_decimal (h : Decimal cs n) :
    integer64 cs = (digits (Nat.pow 2 63 - 1) .tooLarge cs).map fun n : Nat => (n : Int) := by
  unfold integer64
  split
  · exact absurd rfl h.ne_nil
  · cases h.head_isDigit
  · cases h.head_isDigit
  · exact map_lift _ _

theorem parses_integer64 : Parses signed64 integer64 where
  numeral {cs n} h := by
    have hread (cs' : List Char) (m : Nat) (hm : Decimal cs' m) :
        (digits (Nat.pow 2 63 - 1) .tooLarge cs').map (fun n : Nat => (n : Int))
          = if signed64.Holds m then .ok (m : Int) else .error (beyondRange m) := by
      rw [hm.digits_eq, beyondRange_cast]
      simp only [signed64_holds_iff]
      split <;> rfl
    cases h with
    | bare h =>
      rw [integer64_of_decimal h]
      exact hread _ _ h
    | plus h =>
      rw [integer64_plus]
      exact hread _ _ h
    | @minus cs m hsigned h =>
      rw [integer64_minus, h.digits_eq]
      simp only [signed64_holds_neg_iff]
      by_cases hm : m ≤ Nat.pow 2 63
      · rw [if_pos hm, if_pos hm]
        rfl
      · have hneg : -(m : Int) < 0 := by omega
        rw [if_neg hm, if_neg hm, beyondRange, if_pos hneg]
        rfl
  sound {cs n} h := by
    unfold integer64 at h
    split at h
    · cases h
    all_goals
      rw [map_lift] at h
      obtain ⟨m, hm, rfl⟩ := map_eq_ok_iff.mp h
      obtain ⟨hdecimal, hle⟩ := digits_eq_ok_iff.mp hm
    · exact ⟨.minus rfl hdecimal, signed64_holds_neg_iff.mpr hle⟩
    · exact ⟨.plus hdecimal, signed64_holds_iff.mpr hle⟩
    · exact ⟨.bare hdecimal, signed64_holds_iff.mpr hle⟩

example : integer64 "-009223372036854775808".toList = .ok (-9223372036854775808) := rfl

end Parsing

/-! ## Variables -/

/-- The number that a variable gives: its default where it is not set or not set to a text, and
    otherwise the number in range that its text denotes. -/
inductive Gives (r : IntegerRange) (env : Environment) (name : String) (default : Int) : Int → Prop
  | unset (hunset : env name = none) : Gives r env name default default
  | notUnicode (hset : env name = some .notUnicode) : Gives r env name default default
  | set {value : String} {n : Int} (hset : env name = some (.text value))
      (hnumeral : Numeral r.signed (Text.trimChars value.toList) n) (hholds : r.Holds n) :
      Gives r env name default n

/-- What is read of a variable, by the default that is given for it. -/
structure ReadsNumber {α : Type} (r : IntegerRange) (env : Environment) (name : String)
    (toInt : α → Int) (read : α → Except SettingError α) : Prop where
  ok_iff : ∀ default n,
    (read default).map toInt = .ok n ↔ Gives r env name (toInt default) n
  unparsable : ∀ default, (∀ n, ¬ Gives r env name (toInt default) n) →
    ∃ details, read default = .error (.unparsable name details)
  beyond : ∀ default value n, env name = some (.text value) →
    Numeral r.signed (Text.trimChars value.toList) n → ¬ r.Holds n →
    read default = .error (.unparsable name (beyondRange n).message)
  /-- The default does not matter where there is a text. -/
  set : ∀ value, env name = some (.text value) →
    ∀ default default', read default = read default'

section Variables

variable {α : Type} {r : IntegerRange} {env : Environment} {name : String} {toInt : α → Int}
  {parse : List Char → Except IntegerFault α}

theorem parseOr_of_none (h : env.text? name = none) (default : α)
    (parse : List Char → Except String α) : env.parseOr name default parse = .ok default := by
  rw [Environment.parseOr, h]

theorem parseOr_of_some {value : String} (h : env.text? name = some value) (default : α) :
    env.parseOr name default (fun cs => (parse cs).mapError (·.message))
      = (parse (Text.trimChars value.toList)).mapError fun fault =>
          .unparsable name fault.message := by
  rw [Environment.parseOr, h]
  cases hparse : parse (Text.trimChars value.toList) <;> (simp only [hparse]; rfl)

theorem Gives.of_no_text (h : env.text? name = none) (default : Int) :
    Gives r env name default default := by
  unfold Environment.text? at h
  split at h
  · cases h
  · exact .notUnicode ‹_›
  · exact .unset ‹_›

theorem gives_iff_of_none (h : env.text? name = none) {default n : Int} :
    Gives r env name default n ↔ default = n := by
  constructor
  · intro hgives
    cases hgives with
    | unset | notUnicode => rfl
    | set hset => cases h.symm.trans (Environment.text?_eq_some_iff.mpr hset)
  · rintro rfl
    exact .of_no_text h default

theorem gives_iff_of_some {value : String} (h : env.text? name = some value) {default n : Int} :
    Gives r env name default n
      ↔ Numeral r.signed (Text.trimChars value.toList) n ∧ r.Holds n := by
  have htext := Environment.text?_eq_some_iff.mp h
  constructor
  · intro hgives
    cases hgives with
    | unset hunset => cases htext.symm.trans hunset
    | notUnicode hset => cases htext.symm.trans hset
    | set hset hnumeral hholds =>
      cases htext.symm.trans hset
      exact ⟨hnumeral, hholds⟩
  · rintro ⟨hnumeral, hholds⟩
    exact .set htext hnumeral hholds

theorem Parses.eq_ok_iff {parse : List Char → Except IntegerFault Int} (h : Parses r parse)
    (cs : List Char) (n : Int) : parse cs = .ok n ↔ Numeral r.signed cs n ∧ r.Holds n := by
  refine ⟨h.sound, fun hn => ?_⟩
  rw [h.numeral hn.1, if_pos hn.2]

theorem mapError_eq_ok_iff {ε ε' : Type} {x : Except ε α} {f : ε → ε'} {a : α} :
    x.mapError f = .ok a ↔ x = .ok a := by
  cases x with
  | error e => exact iff_of_false nofun nofun
  | ok b =>
    constructor <;> intro h
    · cases h
      rfl
    · cases h
      rfl

theorem Parses.readsNumber (h : Parses r fun cs => (parse cs).map toInt) (env : Environment)
    (name : String) : ReadsNumber r env name toInt fun default =>
      env.parseOr name default fun cs => (parse cs).mapError (·.message) := by
  cases henv : env.text? name with
  | none =>
    refine ⟨fun default n => ?_, fun default hnone => ?_, fun _ value _ hset => ?_,
      fun value hset => ?_⟩
    · rw [parseOr_of_none henv, gives_iff_of_none henv]
      simp [Except.map]
    · exact absurd (.of_no_text henv _) (hnone (toInt default))
    all_goals cases henv.symm.trans (Environment.text?_eq_some_iff.mpr hset)
  | some value =>
    have hok (n : Int) := h.eq_ok_iff (Text.trimChars value.toList) n
    have hset := Environment.text?_eq_some_iff.mp henv
    refine ⟨fun default n => ?_, fun default hnone => ?_,
      fun default value' n hset' hn hbeyond => ?_, fun _ _ default default' => ?_⟩
    · rw [parseOr_of_some henv, gives_iff_of_some henv, ← hok]
      simp only [map_eq_ok_iff, mapError_eq_ok_iff]
    · rw [parseOr_of_some henv]
      cases hparse : parse (Text.trimChars value.toList) with
      | ok a =>
        have hn := (hok (toInt a)).mp (by rw [hparse]; rfl)
        exact absurd (.set hset hn.1 hn.2) (hnone (toInt a))
      | error fault => exact ⟨_, rfl⟩
    · cases hset.symm.trans hset'
      have hread := h.numeral hn
      rw [if_neg hbeyond] at hread
      rw [parseOr_of_some henv]
      cases hparse : parse (Text.trimChars value.toList) with
      | ok a =>
        rw [hparse] at hread
        cases hread
      | error fault =>
        rw [hparse] at hread
        cases hread
        rfl
    · rw [parseOr_of_some henv, parseOr_of_some henv]

end Variables

theorem integerOr_readsNumber (env : Environment) (name : String) :
    ReadsNumber signed64 env name id (env.integerOr name) := by
  have hparses : Parses signed64 fun cs => (integer64 cs).map id := by
    simpa only [Except.map_id, id] using parses_integer64
  exact hparses.readsNumber env name

theorem naturalOr_readsNumber (env : Environment) (name : String) :
    ReadsNumber unsigned64 env name Nat.cast (env.naturalOr name) :=
  parses_natural64.readsNumber env name

/-! ## Lifetimes of the guard -/

open Guard (Lifetimes)
open Guard.Lifetimes (allowedVariable blockedVariable ofEnvironment)

/-- The lifetimes of decisions are given by a variable each, in seconds.  Of two that cannot be
    parsed the one for allowing decisions is named. -/
structure ReadsLifetimes (env : Environment) : Prop where
  ok_iff : ∀ l, ofEnvironment env = .ok l ↔ ∃ allowed blocked : Nat,
    Gives unsigned64 env allowedVariable 60 allowed
      ∧ Gives unsigned64 env blockedVariable 15 blocked
      ∧ l.allowed = 1000 * allowed ∧ l.blocked = 1000 * blocked
  allowed : (∀ n, ¬ Gives unsigned64 env allowedVariable 60 n) →
    ∃ details, ofEnvironment env = .error (.unparsable allowedVariable details)
  blocked : (∃ n, Gives unsigned64 env allowedVariable 60 n) →
    (∀ n, ¬ Gives unsigned64 env blockedVariable 15 n) →
    ∃ details, ofEnvironment env = .error (.unparsable blockedVariable details)

theorem naturalOr_ok_iff {env : Environment} {name : String} {default n : Nat} :
    env.naturalOr name default = .ok n ↔ Gives unsigned64 env name default n := by
  rw [← (naturalOr_readsNumber env name).ok_iff default n, map_eq_ok_iff]
  constructor
  · intro h
    exact ⟨n, h, rfl⟩
  · rintro ⟨m, h, hm⟩
    rwa [Int.ofNat_inj.mp hm] at h

theorem exists_naturalOr_of_gives {env : Environment} {name : String} {default : Nat} {n : Int}
    (h : Gives unsigned64 env name default n) : ∃ m, env.naturalOr name default = .ok m := by
  obtain ⟨m, hm, -⟩ := map_eq_ok_iff.mp (((naturalOr_readsNumber env name).ok_iff default n).mpr h)
  exact ⟨m, hm⟩

theorem readsLifetimes (env : Environment) : ReadsLifetimes env where
  ok_iff l := by
    have hgives (n : Nat) : Gives unsigned64 env allowedVariable 60 n
        ↔ env.naturalOr allowedVariable 60 = .ok n := naturalOr_ok_iff.symm
    have hgives' (n : Nat) : Gives unsigned64 env blockedVariable 15 n
        ↔ env.naturalOr blockedVariable 15 = .ok n := naturalOr_ok_iff.symm
    simp only [hgives, hgives', ofEnvironment]
    cases hallowed : env.naturalOr allowedVariable 60 with
    | error e => simp [bind, Except.bind]
    | ok allowed =>
      cases hblocked : env.naturalOr blockedVariable 15 with
      | error e => simp [bind, Except.bind]
      | ok blocked =>
        obtain ⟨allowed', blocked'⟩ := l
        simp [bind, Except.bind, pure, Except.pure, Guard.Lifetimes.ofSeconds, eq_comm]
  allowed hnone := by
    obtain ⟨details, hdetails⟩ := (naturalOr_readsNumber env allowedVariable).unparsable 60 hnone
    refine ⟨details, ?_⟩
    rw [ofEnvironment, hdetails]
    rfl
  blocked := by
    rintro ⟨n, hn⟩ hnone
    obtain ⟨allowed, hallowed⟩ := exists_naturalOr_of_gives hn
    obtain ⟨details, hdetails⟩ := (naturalOr_readsNumber env blockedVariable).unparsable 15 hnone
    refine ⟨details, ?_⟩
    rw [ofEnvironment, hallowed, hdetails]
    rfl

/-- **Set variables decide.**  A whole number of 64 bits, with a sign or without, is the default
    only if its variable is not set to a text.  Otherwise it is the number of the numeral in the
    variable, or the variable is named; and the lifetimes of the guard are read like this, each from
    its own variable. -/
theorem set_variable_decides (env : Environment) :
    (∀ name, ReadsNumber signed64 env name id (env.integerOr name))
      ∧ (∀ name, ReadsNumber unsigned64 env name Nat.cast (env.naturalOr name))
      ∧ ReadsLifetimes env :=
  ⟨integerOr_readsNumber env, naturalOr_readsNumber env, readsLifetimes env⟩

/-- The lifetime of blocking decisions is set, but not to a text. -/
def scrambled : Environment := fun name => if name = blockedVariable then some .notUnicode else none

/-- Such a variable has its default and is not named. -/
theorem scrambled_defaulted :
    scrambled blockedVariable ≠ none ∧ ofEnvironment scrambled = .ok ⟨60000, 15000⟩ :=
  ⟨by decide, rfl⟩

end BlockMail.Settings
