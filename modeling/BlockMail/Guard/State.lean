import BlockMail.Guard.Decision

/-! # The guard as a state machine

The guard answers checks with decisions that it looks up in a source and keeps
for a while.  What happens to it is a list of events:

- a caller *checks* an organization.  A stored decision that has not expired is
  the answer.  Otherwise the caller waits on the lookup that is under way, or on
  a new one if there is none;
- the source *answers* a lookup, with a decision or with a failure;
- a caller that waits on an answered lookup *resumes*.  The first to do so, while
  the lookup is still the one registered for its organization, stores the
  decision or takes a failed lookup off.  Every caller returns the answer of its
  own lookup, and a failure allows;
- a waiting caller is *cancelled*, what is known about one organization or all of
  them is *forgotten*, and time goes by.

A lookup is named by a `Ticket`: the organization and how many lookups for it
were started before.  `step` is one event and `trace` what a list of events makes
happen, with the times.
-/

namespace BlockMail.Guard

/-- A lookup of an organization, numbered from zero for each organization. -/
structure Ticket where
  organization : String
  number : Nat
  deriving DecidableEq, Repr, Inhabited

/-- What the source answers: a decision, or nothing when it fails. -/
abbrev Answer := Option Decision

/-- What is known about an organization. -/
inductive Slot where
  /-- A decision and the time it was stored at. -/
  | ready (decision : Decision) (storedAt : Nat)
  /-- The lookup that is registered for the organization. -/
  | pending (ticket : Ticket)
  deriving DecidableEq, Repr, Inhabited

/-- A caller that waits for the answer of a lookup. -/
structure Waiter where
  caller : Nat
  ticket : Ticket
  deriving DecidableEq, Repr, Inhabited

/-- Where a returned decision comes from. -/
inductive Origin where
  | stored
  | lookedUp (ticket : Ticket)
  deriving DecidableEq, Repr, Inhabited

/-- What can happen to the guard. -/
inductive Event where
  | check (caller : Nat) (organization : String)
  | answer (ticket : Ticket) (answer : Answer)
  | resume (caller : Nat)
  | cancel (caller : Nat)
  | invalidate (organization : String)
  | clear
  | wait (duration : Nat)
  deriving DecidableEq, Repr, Inhabited

/-- What an event makes happen. -/
inductive Happening where
  /-- The source is asked, and a caller waits on the new lookup. -/
  | asked (caller : Nat) (ticket : Ticket)
  /-- A caller waits on a lookup that is under way. -/
  | joined (caller : Nat) (ticket : Ticket)
  /-- A check returns. -/
  | returned (caller : Nat) (organization : String) (decision : Decision) (origin : Origin)
  deriving DecidableEq, Repr, Inhabited

/-- The state of the guard, its clock and its callers. -/
structure State where
  /-- Milliseconds since the start. -/
  now : Nat := 0
  slots : String → Option Slot := fun _ => none
  /-- How many lookups were started for each organization. -/
  started : String → Nat := fun _ => 0
  answers : Ticket → Option Answer := fun _ => none
  waiting : List Waiter := []

namespace State

instance : Inhabited State := ⟨{}⟩

/-- A function changed at one point. -/
def update {α β : Type} [DecidableEq α] (f : α → β) (a : α) (b : β) : α → β :=
  fun x => if x = a then b else f x

@[simp] theorem update_self {α β : Type} [DecidableEq α] (f : α → β) (a : α) (b : β) :
    update f a b a = b := by simp [update]

theorem update_of_ne {α β : Type} [DecidableEq α] (f : α → β) {a x : α} (b : β) (h : x ≠ a) :
    update f a b x = f x := by simp [update, h]

/-- The waiter that a caller is, if it waits. -/
def waiter? (s : State) (caller : Nat) : Option Waiter :=
  s.waiting.find? (·.caller == caller)

/-- The callers that wait on a lookup, in the order they came. -/
def waitersOn (s : State) (ticket : Ticket) : List Nat :=
  (s.waiting.filter (·.ticket == ticket)).map (·.caller)

/-- The state without a waiting caller. -/
def dismiss (s : State) (caller : Nat) : State :=
  { s with waiting := s.waiting.filter (·.caller != caller) }

/-- Whether a stored decision can still be used. -/
def isFresh (lifetimes : Lifetimes) (s : State) (d : Decision) (storedAt : Nat) : Bool :=
  s.now < storedAt + lifetimes.of d

/-- The slots without the decisions that have expired. -/
def sweep (lifetimes : Lifetimes) (s : State) (organization : String) : Option Slot :=
  (s.slots organization).filter fun slot =>
    match slot with
    | .ready d storedAt => isFresh lifetimes s d storedAt
    | .pending _ => true

/-- The lookup that would be started next for an organization. -/
def nextTicket (s : State) (organization : String) : Ticket :=
  ⟨organization, s.started organization⟩

/-- The state after a caller has registered a new lookup.  Expired decisions are
    swept on this occasion. -/
def lookUp (lifetimes : Lifetimes) (s : State) (caller : Nat) (organization : String) : State :=
  let ticket := s.nextTicket organization
  { s with
    slots := update (sweep lifetimes s) organization (some (.pending ticket))
    started := update s.started organization (ticket.number + 1)
    waiting := s.waiting ++ [⟨caller, ticket⟩] }

/-- Whether a lookup is the one registered for its organization. -/
def isRegistered (s : State) (ticket : Ticket) : Bool :=
  s.slots ticket.organization == some (.pending ticket)

/-- The slot that an answer leaves: a decision stored now, or nothing. -/
def settledSlot (s : State) : Answer → Option Slot
  | some d => some (.ready d s.now)
  | none => none

/-- Puts the answer of a lookup in the place of the lookup, if that is still
    registered. -/
def settle (s : State) (ticket : Ticket) (answer : Answer) : State :=
  if s.isRegistered ticket then
    { s with slots := update s.slots ticket.organization (s.settledSlot answer) }
  else s

end State

open State

/-- A caller asks about an organization.  Nothing happens if it is still waiting
    for an answer. -/
def check (lifetimes : Lifetimes) (s : State) (caller : Nat) (organization : String) :
    State × List Happening :=
  if (s.waiter? caller).isSome then (s, [])
  else
    match sweep lifetimes s organization with
    | some (.ready d _) => (s, [.returned caller organization d .stored])
    | some (.pending ticket) =>
      ({ s with waiting := s.waiting ++ [⟨caller, ticket⟩] }, [.joined caller ticket])
    -- nothing fresh is stored and nothing is pending
    | none =>
      (s.lookUp lifetimes caller organization, [.asked caller (s.nextTicket organization)])

/-- The source answers a lookup that was started.  The first answer counts. -/
def answer (s : State) (ticket : Ticket) (a : Answer) : State :=
  if ticket.number < s.started ticket.organization ∧ s.answers ticket = none then
    { s with answers := update s.answers ticket (some a) }
  else s

/-- A waiting caller goes on, if its lookup is answered. -/
def resume (s : State) (caller : Nat) : State × List Happening :=
  match s.waiter? caller with
  | none => (s, [])
  | some w =>
    match s.answers w.ticket with
    | none => (s, [])
    | some a =>
      -- an organization whose lookup failed is allowed
      ((s.settle w.ticket a).dismiss caller,
        [.returned caller w.ticket.organization (a.getD .allowed) (.lookedUp w.ticket)])

/-- What an event does to the guard, and what happens. -/
def step (lifetimes : Lifetimes) (s : State) : Event → State × List Happening
  | .check caller organization => check lifetimes s caller organization
  | .answer ticket a => (answer s ticket a, [])
  | .resume caller => resume s caller
  | .cancel caller => (s.dismiss caller, [])
  | .invalidate organization => ({ s with slots := update s.slots organization none }, [])
  | .clear => ({ s with slots := fun _ => none }, [])
  | .wait duration => ({ s with now := s.now + duration }, [])

/-- The state after a list of events. -/
def run (lifetimes : Lifetimes) (s : State) (events : List Event) : State :=
  events.foldl (fun s e => (step lifetimes s e).1) s

/-- What a list of events makes happen, and when. -/
def trace (lifetimes : Lifetimes) (s : State) : List Event → List (Nat × Happening)
  | [] => []
  | e :: events =>
    (step lifetimes s e).2.map (s.now, ·) ++ trace lifetimes (step lifetimes s e).1 events

/-! ## Small lemmas -/

variable {lifetimes : Lifetimes}

@[simp] theorem run_nil (s : State) : run lifetimes s [] = s := rfl

@[simp] theorem run_cons (s : State) (e : Event) (events : List Event) :
    run lifetimes s (e :: events) = run lifetimes (step lifetimes s e).1 events := rfl

theorem run_append (s : State) (first second : List Event) :
    run lifetimes s (first ++ second) = run lifetimes (run lifetimes s first) second := by
  simp [run, List.foldl_append]

/-- What happens in two runs on end. -/
theorem trace_append (s : State) (first second : List Event) :
    trace lifetimes s (first ++ second)
      = trace lifetimes s first ++ trace lifetimes (run lifetimes s first) second := by
  induction first generalizing s with
  | nil => rfl
  | cons e events ih => simp [trace, ih]

/-- A lookup that is not registered settles nothing. -/
theorem State.settle_of_not_registered {s : State} {ticket : Ticket} (a : Answer)
    (h : s.isRegistered ticket = false) : s.settle ticket a = s := by
  simp [State.settle, h]

end BlockMail.Guard
