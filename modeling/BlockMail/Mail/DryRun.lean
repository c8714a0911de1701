import BlockMail.Guard.Simulation
import BlockMail.Mail.Mailer
import BlockMail.Mail.Outbox

/-! # Dry runs of the mailer

A mailer whose messages go to an outbox and whose guard asks a scripted source.
-/

namespace BlockMail

/-- The effects of a dry run: the outbox fills, and the time of the simulation
    passes. -/
abbrev DryRun := StateT Outbox (StateM Guard.Simulation)

namespace DryRun

/-- Asks the simulated guard. -/
def decide (organization : String) : DryRun Guard.Decision :=
  fun o s => let (d, s) := s.check organization; ((d, o), s)

/-- A mailer for a dry run.  With a `failure` its provider refuses every message. -/
def mailer (settings : MailSettings) (failure : Option String) (guarded : Bool)
    (ids : Nat → String := fun n => toString n) : Mailer DryRun :=
  { settings
    provider := Outbox.provider failure ids
    guard := if guarded then some decide else none }

/-- Sends a document in a dry run. -/
def send (mailer : Mailer DryRun) (request : SendRequest) (o : Outbox) (s : Guard.Simulation) :
    Except MailError SendOutcome × Outbox × Guard.Simulation :=
  let ((result, o), s) := mailer.send request o s
  (result, o, s)

end DryRun

end BlockMail
