import BlockMail.Error
import BlockMail.Text.Blank

/-! # Environment variables

Settings come from environment variables.  A variable that is not set has a
default; one that is set to a text is never replaced by it, so a text that cannot
be parsed is an error.  A variable that is set to anything but Unicode text counts
as not set.  White space around a value to be parsed does not matter.
-/

namespace BlockMail

/-- What a variable is set to. -/
inductive VariableValue where
  | text (s : String)
  /-- Bytes that are no Unicode text. -/
  | notUnicode
  deriving DecidableEq, Repr, Inhabited

/-- Names with texts are variables that are set to these texts. -/
instance : Coe (List (String × String)) (List (String × VariableValue)) :=
  ⟨fun vars => vars.map fun (name, s) => (name, .text s)⟩

/-- The variables that are set. -/
abbrev Environment := String → Option VariableValue

namespace Environment

/-- The text that a variable is set to. -/
def text? (env : Environment) (name : String) : Option String :=
  match env name with
  | some (.text s) => some s
  | some .notUnicode | none => none

theorem text?_eq_some_iff {env : Environment} {name s : String} :
    env.text? name = some s ↔ env name = some (.text s) := by
  unfold text?
  rcases env name with _ | s' | _ <;> simp

/-- The text of a variable, or the default when there is none. -/
def getOr (env : Environment) (name default : String) : String :=
  (env.text? name).getD default

/-- The text of a variable that must have one. -/
def require (env : Environment) (name : String) : Except SettingError String :=
  match env.text? name with
  | some value => .ok value
  | none => .error (.missing name)

/-- The parsed text of a variable, or the default when there is none. -/
def parseOr {α : Type} (env : Environment) (name : String) (default : α)
    (parse : List Char → Except String α) : Except SettingError α :=
  match env.text? name with
  | none => .ok default
  | some raw =>
    match parse (Text.trimChars raw.toList) with
    | .ok value => .ok value
    | .error details => .error (.unparsable name details)

end Environment

/-! ## Numbers and truth values -/

namespace Settings

/-- Why digits are no number of the wanted range. -/
inductive IntegerFault where
  | empty
  | invalidDigit
  | tooLarge
  | tooSmall
  deriving DecidableEq, Repr, Inhabited

/-- The wording of an integer fault. -/
def IntegerFault.message : IntegerFault → String
  | .empty => "cannot parse integer from empty string"
  | .invalidDigit => "invalid digit found in string"
  | .tooLarge => "number too large to fit in target type"
  | .tooSmall => "number too small to fit in target type"

/-- Appends decimal digits to `n`.  The first character that is no digit, or that
    takes the number beyond `bound`, decides what is wrong. -/
def digitsFrom (bound : Nat) (overflow : IntegerFault) (n : Nat) :
    List Char → Except IntegerFault Nat
  | [] => .ok n
  | c :: cs =>
    if c.isDigit then
      let m := n * 10 + (c.toNat - '0'.toNat)
      -- checked at each digit, so before any character behind it
      if m ≤ bound then digitsFrom bound overflow m cs else .error overflow
    else .error .invalidDigit

/-- One digit or more. -/
def digits (bound : Nat) (overflow : IntegerFault) : List Char → Except IntegerFault Nat
  | [] => .error .invalidDigit
  | cs => digitsFrom bound overflow 0 cs

/-- A whole number of 64 bits without a sign; a plus may stand before it. -/
def natural64 : List Char → Except IntegerFault Nat
  | [] => .error .empty
  | '+' :: cs => digits (UInt64.size - 1) .tooLarge cs
  | cs => digits (UInt64.size - 1) .tooLarge cs

/-- A whole number of 64 bits with a sign; a plus may stand before it. -/
def integer64 : List Char → Except IntegerFault Int
  | [] => .error .empty
  | '-' :: cs => (digits (Nat.pow 2 63) .tooSmall cs).map fun n => -(n : Int)
  | '+' :: cs => (digits (Nat.pow 2 63 - 1) .tooLarge cs).map fun n => (n : Int)
  | cs => (digits (Nat.pow 2 63 - 1) .tooLarge cs).map fun n => (n : Int)

/-- The words `true` and `false`. -/
def truthValue (cs : List Char) : Except String Bool :=
  if cs = "true".toList then .ok true
  else if cs = "false".toList then .ok false
  else .error "provided string was not `true` or `false`"

end Settings

namespace Environment

/-- A variable holding a whole number of 64 bits without a sign. -/
def naturalOr (env : Environment) (name : String) (default : Nat) : Except SettingError Nat :=
  env.parseOr name default fun cs => (Settings.natural64 cs).mapError (·.message)

/-- A variable holding a whole number of 64 bits with a sign. -/
def integerOr (env : Environment) (name : String) (default : Int) : Except SettingError Int :=
  env.parseOr name default fun cs => (Settings.integer64 cs).mapError (·.message)

/-- A variable holding a truth value. -/
def truthValueOr (env : Environment) (name : String) (default : Bool) :
    Except SettingError Bool :=
  env.parseOr name default Settings.truthValue

end Environment

end BlockMail
