import BlockMail.Dict

/-! # Switches on a command line

The words after a command are switches and their values.  A switch is written with
two dashes and its name, or with one dash and its letter.  A value follows in the
next word, or in the same word: after an equals sign, or directly after the letter.
A word that starts with a dash is never taken for a value, except for a dash alone.

Faults are found in the order of the words, with one exception: a value that is
missing or unacceptable is noticed at the next switch that is known, or at the end.

- `Word.ofText` is what a word looks like;
- `Progress.meet` is what one switch does;
- `readSwitches` reads all words.
-/

namespace BlockMail.CommandLine

/-- What a switch is for. -/
inductive SwitchKind where
  /-- It is there or not. -/
  | flag
  | text
  /-- The name of a file or folder, which is never empty. -/
  | path
  | help
  | version
  deriving DecidableEq, Repr, Inhabited

/-- A switch that a command knows. -/
structure Switch where
  name : String
  letter : Option Char := none
  kind : SwitchKind
  required : Bool := false
  deriving DecidableEq, Repr, Inhabited

/-- The switch has a value. -/
def Switch.hasValue (s : Switch) : Bool :=
  s.kind == .text || s.kind == .path

/-- Why a command line is not carried out. -/
inductive Fault where
  /-- Help was asked for. -/
  | help
  /-- There is no command, so help is offered. -/
  | helpInstead
  | version
  | unknownArgument
  | unknownCommand
  /-- A value is missing, or empty where it must not be. -/
  | invalidValue
  /-- A switch comes twice. -/
  | repeated
  /-- A value is given to a switch that has none. -/
  | needlessValue
  | missingArgument
  deriving DecidableEq, Repr, Inhabited

/-! ## Words -/

/-- What a word looks like. -/
inductive Word where
  /-- Two dashes: no switches follow. -/
  | terminator
  | long (name : String) (value : Option String)
  /-- A dash and letters, the last of which may have a value. -/
  | short (letters : List Char)
  | plain
  deriving DecidableEq, Repr, Inhabited

/-- What a word looks like. -/
def Word.ofText (s : String) : Word :=
  match s.toList with
  | ['-', '-'] => .terminator
  | '-' :: '-' :: cs =>
    match cs.span (· != '=') with
    | (name, '=' :: value) => .long (String.ofList name) (some (String.ofList value))
    | (name, _) => .long (String.ofList name) none
  | '-' :: c :: cs => .short (c :: cs)
  | _ => .plain

/-! ## Reading -/

/-- A switch whose value is not looked at yet: it may still be to come. -/
structure Pending where
  switch : Switch
  value : Option String
  deriving DecidableEq, Repr, Inhabited

/-- The switches that were read, by their names, with their values; the value of
    a flag is empty. -/
structure Progress where
  bound : Dict String := ∅
  pending : Option Pending := none

namespace Progress

/-- Gives a switch its value. -/
def bind (p : Progress) (s : Switch) (value : String) : Except Fault Progress :=
  if (p.bound.get? s.name).isSome then .error .repeated
  else if s.kind = .path ∧ value = "" then .error .invalidValue
  else .ok { p with bound := p.bound.insert s.name value }

/-- Looks at the switch that is pending. -/
def settle (p : Progress) : Except Fault Progress :=
  match p.pending with
  | none => .ok p
  | some ⟨_, none⟩ => .error .invalidValue
  | some ⟨s, some value⟩ => { p with pending := none }.bind s value

/-- A switch of the command is met, with a value or without one. -/
def meet (p : Progress) (s : Switch) (value : Option String) : Except Fault Progress :=
  match s.hasValue, value with
  | true, some value => do (← p.settle).bind s value
  -- the value is the next word
  | true, none => do return { ← p.settle with pending := some ⟨s, none⟩ }
  | false, some _ => .error .needlessValue
  | false, none => do
    let p ← p.settle
    match s.kind with
    | .help => .error .help
    | .version => .error .version
    | _ => p.bind s ""

/-- Letters after one dash are met from left to right. -/
def meetLetters (switches : List Switch) (p : Progress) : List Char → Except Fault Progress
  | [] => .ok p
  | c :: cs =>
    match switches.find? (·.letter == some c) with
    | none => .error .unknownArgument
    | some s =>
      if s.hasValue then
        match cs with
        | [] => p.meet s none
        | '=' :: value => p.meet s (some (String.ofList value))
        -- what is left of the word is the value, with or without the sign
        | value => p.meet s (some (String.ofList value))
      else do meetLetters switches (← p.meet s none) cs

/-- A word that is no switch is the value that is to come. -/
def supply (p : Progress) (value : String) : Except Fault Progress :=
  match p.pending with
  | some ⟨s, none⟩ => .ok { p with pending := some ⟨s, some value⟩ }
  | _ => .error .unknownArgument

/-- What a word does. -/
def read (switches : List Switch) (p : Progress) (w : String) : Except Fault Progress :=
  match Word.ofText w with
  | .long name value =>
    match switches.find? (·.name == name) with
    | none => .error .unknownArgument
    | some s => p.meet s value
  | .short letters => p.meetLetters switches letters
  | _ => p.supply w

/-- All words have been read. -/
def finish (switches : List Switch) (p : Progress) : Except Fault (Dict String) := do
  let p ← p.settle
  if switches.any fun s => s.required && (p.bound.get? s.name).isNone then
    .error .missingArgument
  else .ok p.bound

end Progress

/-- Reads the words after a command. -/
def readSwitches (switches : List Switch) (p : Progress) : List String → Except Fault (Dict String)
  | [] => p.finish switches
  | w :: ws =>
    if Word.ofText w = .terminator then
      if ws.isEmpty then p.finish switches else .error .unknownArgument
    else
      match p.read switches w with
      | .ok p => readSwitches switches p ws
      | .error e => .error e

end BlockMail.CommandLine
