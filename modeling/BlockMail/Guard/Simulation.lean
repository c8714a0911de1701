import BlockMail.Dict
import BlockMail.Guard.State

/-! # Simulated runs of the guard

A guard in front of a source that follows a script, on a clock that moves only
when somebody waits.

- The script says, for each organization, what the source answers and how long
  it takes.  A lookup gets what the script says at the moment it is started.
- A waiting caller goes on at the very moment its answer is due.  A lookup that
  nobody waits on any more stays registered; whoever joins it later sees its
  answer as soon as that is due, which may be at once.
- Checks that are begun together go on at once as well, until they have made so
  many accesses to the guard that they have to queue for it.

`Simulation.perform` is one instruction of a run.  Everything it does to the
guard it does with `Guard.step`.
-/

namespace BlockMail.Guard

/-- What the source does when it is asked about an organization. -/
structure Reply where
  /-- Milliseconds until the answer is there. -/
  delay : Nat := 0
  answer : Answer := some .allowed
  deriving DecidableEq, Repr, Inhabited

/-- The answer of a lookup that is under way. -/
structure Promise where
  ticket : Ticket
  due : Nat
  answer : Answer
  deriving DecidableEq, Repr, Inhabited

/-- A guard with its scripted source. -/
structure Simulation where
  lifetimes : Lifetimes := {}
  guard : State := {}
  /-- Organizations that are not in it get the default reply. -/
  script : Dict Reply := ∅
  promises : List Promise := []
  /-- How many checks were begun; a check is a caller of its own. -/
  callers : Nat := 0
  /-- Checks that returned. -/
  returns : List (Nat × Decision) := []
  /-- Organizations that the source was asked about, the last one first. -/
  asked : List String := []
  /-- Checks in the background, by their names. -/
  background : Dict Nat := ∅

namespace Simulation

instance : Inhabited Simulation := ⟨{}⟩

/-- Takes note of what happened. -/
def note (s : Simulation) : Happening → Simulation
  | .asked _ ticket =>
    let reply := (s.script.get? ticket.organization).getD {}
    { s with
      asked := ticket.organization :: s.asked
      promises := ⟨ticket, s.guard.now + reply.delay, reply.answer⟩ :: s.promises }
  -- who joins causes no lookup
  | .joined _ _ => s
  | .returned caller _ d _ => { s with returns := (caller, d) :: s.returns }

/-- An event of the guard. -/
def apply (s : Simulation) (e : Event) : Simulation :=
  let (guard, happenings) := step s.lifetimes s.guard e
  happenings.foldl note { s with guard }

/-- A lookup is answered, and everybody who waits on it goes on. -/
def keep (s : Simulation) (p : Promise) : Simulation :=
  let s := { s with promises := s.promises.filter (·.ticket != p.ticket) }
  (s.guard.waitersOn p.ticket).foldl (fun s caller => s.apply (.resume caller))
    (s.apply (.answer p.ticket p.answer))

/-- Moves the clock to a time, if that is yet to come. -/
def moveTo (s : Simulation) (time : Nat) : Simulation :=
  s.apply (.wait (time - s.guard.now))

/-- The promises up to a time that somebody waits on, in the order they are due. -/
def duePromises (s : Simulation) (time : Nat) : List Promise :=
  (s.promises.filter fun p => p.due ≤ time && !(s.guard.waitersOn p.ticket).isEmpty).mergeSort
    fun p q => p.due ≤ q.due

def waitUntil (s : Simulation) (time : Nat) : Simulation :=
  ((s.duePromises time).foldl (fun s p => (s.moveTo p.due).keep p) s).moveTo time

/-- The time at which a caller that waits goes on. -/
def dueOf? (s : Simulation) (caller : Nat) : Option Nat :=
  (s.guard.waiter? caller).bind fun w =>
    (s.promises.find? (·.ticket == w.ticket)).map (·.due)

/-- Everybody whose answer is due goes on. -/
def settleDue (s : Simulation) : Simulation := s.waitUntil s.guard.now

/-- A new check asks the guard. -/
def ask (s : Simulation) (organization : String) : Nat × Simulation :=
  (s.callers, { s with callers := s.callers + 1 }.apply (.check s.callers organization))

/-- Begins a check.  If its answer is due already it returns at once. -/
def begin (s : Simulation) (organization : String) : Nat × Simulation :=
  let (caller, s) := s.ask organization
  (caller, s.settleDue)

/-- How many accesses to the guard a group of checks gets in one go. -/
def burst : Nat := 128

/-- How many accesses a check makes when it is begun: one to ask, and one more to
    go on if its answer is due already. -/
def accesses (s : Simulation) (caller : Nat) : Nat :=
  if (s.dueOf? caller).any (· ≤ s.guard.now) then 2 else 1

/-- Begins checks from left to right, with some accesses left in this go.  Once
    those are used up, accesses are granted in the order in which they are asked
    for, so the remaining checks have all asked before the first of them goes on. -/
def beginAll (s : Simulation) (left : Nat) : List String → List Nat × Simulation
  | [] => ([], s)
  | organization :: rest =>
    let (caller, s) := s.ask organization
    let left' := left - s.accesses caller
    let (callers, s) := (if left = 0 then s else s.settleDue).beginAll left' rest
    (caller :: callers, s)

/-- Waits until the given checks have returned. -/
def awaitAll (s : Simulation) (callers : List Nat) : Simulation :=
  s.waitUntil ((callers.filterMap s.dueOf?).foldl max s.guard.now)

def decisionOf? (s : Simulation) (caller : Nat) : Option Decision :=
  (s.returns.find? (·.1 == caller)).map (·.2)

/-- Checks organizations together and waits for all decisions. -/
def checkAll (s : Simulation) (organizations : List String) : List Decision × Simulation :=
  let (callers, s) := s.beginAll burst organizations
  let s := s.awaitAll callers
  (callers.filterMap s.decisionOf?, s)

/-- Checks an organization and waits for the decision. -/
def check (s : Simulation) (organization : String) : Decision × Simulation :=
  let (decisions, s) := s.checkAll [organization]
  (decisions.headD .allowed, s)

/-- The names of the background checks that have returned, in order. -/
def finished (s : Simulation) : List String :=
  (s.background.entries.filter fun e => (s.decisionOf? e.2).isSome).map (·.1)

/-- An instruction of a run. -/
inductive Instruction where
  | set (organization : String) (reply : Reply)
  | check (organization : String)
  | isAllowed (organization : String)
  | checkAll (organizations : List String)
  /-- Begins a check in the background. -/
  | start (name organization : String)
  /-- Waits for a background check. -/
  | join (name : String)
  /-- Cancels a background check. -/
  | abort (name : String)
  | advance (duration : Nat)
  | invalidate (organization : String)
  | clear
  deriving Repr, Inhabited

/-- What an instruction gives. -/
inductive Outcome where
  | nothing
  | flag (value : Bool)
  | decision (value : Decision)
  | decisions (values : List Decision)
  deriving DecidableEq, Repr, Inhabited

/-- Carries out an instruction. -/
def perform (s : Simulation) : Instruction → Outcome × Simulation
  | .set organization reply =>
    (.nothing, { s with script := s.script.insert organization reply })
  | .check organization =>
    let (d, s) := s.check organization
    (.decision d, s)
  | .isAllowed organization =>
    let (d, s) := s.check organization
    (.flag d.isAllowed, s)
  | .checkAll organizations =>
    let (ds, s) := s.checkAll organizations
    (.decisions ds, s)
  | .start name organization =>
    let (caller, s) := s.begin organization
    (.nothing, { s with background := s.background.insert name caller })
  | .join name =>
    match s.background.get? name with
    | none => (.nothing, s)
    | some caller =>
      let s := s.awaitAll [caller]
      (((s.decisionOf? caller).map .decision).getD .nothing,
        { s with background := s.background.erase name })
  | .abort name =>
    match s.background.get? name with
    | none => (.nothing, s)
    | some caller =>
      (.nothing, { s.apply (.cancel caller) with background := s.background.erase name })
  | .advance duration => (.nothing, s.waitUntil (s.guard.now + duration))
  | .invalidate organization => (.nothing, s.apply (.invalidate organization))
  | .clear => (.nothing, s.apply .clear)

/-- The organizations that the source was asked about, in order, since it was
    asked `before` times. -/
def askedSince (s : Simulation) (before : Nat) : List String :=
  s.asked.reverse.drop before

end Simulation

end BlockMail.Guard
