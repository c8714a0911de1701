import BlockMail.Dict
import BlockMail.Error

/-! # Outgoing mail

A message that is ready for delivery, and what delivers it.
-/

namespace BlockMail

/-- A message ready for delivery. -/
structure OutgoingEmail where
  /-- Usually a name with an address in angle brackets. -/
  sender : String := ""
  recipient : String := ""
  replyTo : Option String := none
  subject : String := ""
  html : String := ""
  text : String := ""
  /-- Further headers, sent in the order of their names. -/
  headers : Dict String := ∅
  deriving DecidableEq, Inhabited

/-- A service that delivers mail, with effects in `m`. -/
structure Provider (m : Type → Type) where
  name : String
  /-- Delivers a message; the answer is what the service calls it. -/
  deliver : OutgoingEmail → m (Except MailError String)
  /-- Whether the settings look good enough for sending. -/
  health : Except MailError Bool

end BlockMail
