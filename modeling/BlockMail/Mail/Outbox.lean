import BlockMail.Mail.Outgoing

/-! # The outbox

A provider that keeps every message instead of sending it, for dry runs.
-/

namespace BlockMail

/-- The messages that were handed over, the first one first. -/
structure Outbox where
  messages : List OutgoingEmail := []
  deriving DecidableEq, Inhabited

namespace Outbox

def add (o : Outbox) (email : OutgoingEmail) : Outbox :=
  ⟨o.messages ++ [email]⟩

def size (o : Outbox) : Nat := o.messages.length

/-- Whether a message went to a recipient. -/
def wasSentTo (o : Outbox) (recipient : String) : Bool :=
  o.messages.any (·.recipient == recipient)

/-- Keeps every message.  A provider with a `failure` keeps none and refuses all
    of them with that text.  The names of the messages end in `ids`, which are made
    up, one for each position. -/
def provider {m : Type → Type} [Monad m] (failure : Option String) (ids : Nat → String) :
    Provider (StateT Outbox m) where
  name := "mock"
  deliver email := fun o =>
    match failure with
    -- a rejected mail leaves no trace
    | some details => pure (.error (.rejected 500 details), o)
    | none => pure (.ok ("mock-" ++ ids o.size), o.add email)
  health := .ok failure.isNone

end Outbox

end BlockMail
