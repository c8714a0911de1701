import BlockMail.Settings.Environment

/-! # Decisions of the guard

Whether an organization may receive mail, and for how long an answer to that
question holds.
-/

namespace BlockMail.Guard

/-- Whether an organization is cut off from mail, and why. -/
structure Decision where
  hardBlocked : Bool := false
  reason : Option String := none
  deriving DecidableEq, Repr, Inhabited

namespace Decision

/-- The decision where nothing is known against an organization. -/
def allowed : Decision := {}

/-- The organization may receive mail. -/
def isAllowed (d : Decision) : Bool := !d.hardBlocked

end Decision

/-- How many milliseconds a decision may be used after it has been stored. -/
structure Lifetimes where
  allowed : Nat := 60000
  blocked : Nat := 15000
  deriving DecidableEq, Repr, Inhabited

namespace Lifetimes

def of (l : Lifetimes) (d : Decision) : Nat :=
  if d.hardBlocked then l.blocked else l.allowed

def ofSeconds (allowed blocked : Nat) : Lifetimes :=
  ⟨1000 * allowed, 1000 * blocked⟩

/-- The variable for the lifetime of an allowing decision. -/
def allowedVariable : String := "MESSAGING_GUARD_ALLOWED_TTL_SECS"

/-- The variable for the lifetime of a blocking decision. -/
def blockedVariable : String := "MESSAGING_GUARD_BLOCKED_TTL_SECS"

/-- The lifetimes in the environment, in seconds there. -/
def ofEnvironment (env : Environment) : Except SettingError Lifetimes := do
  let allowed ← env.naturalOr allowedVariable 60
  let blocked ← env.naturalOr blockedVariable 15
  return ofSeconds allowed blocked

end Lifetimes

end BlockMail.Guard
