import BlockMail.Settings.Environment

/-! # Settings of the mailer

Who mail comes from, and where the program runs.
-/

namespace BlockMail

/-- Sender and fixed headers of outgoing mail. -/
structure MailSettings where
  /-- The address that mail is sent from. -/
  fromAddress : String := "hello@updates.lumiso.app"
  /-- The sender's name where the organization has none. -/
  senderName : String := "Lumiso"
  /-- Where requests to unsubscribe go. -/
  unsubscribeAddress : String := "hello@updates.lumiso.app"
  mailerName : String := "Lumiso Template System"
  /-- The subject of a message whose own is blank. -/
  defaultSubject : String := "Notification"
  deriving DecidableEq, Inhabited

namespace MailSettings

/-- The settings in the environment.  Requests to unsubscribe go to the sender
    unless told otherwise. -/
def ofEnvironment (env : Environment) : MailSettings :=
  let defaults : MailSettings := {}
  let fromAddress := env.getOr "MAIL_FROM_ADDRESS" defaults.fromAddress
  { fromAddress
    senderName := env.getOr "MAIL_DEFAULT_SENDER_NAME" defaults.senderName
    -- an address of its own, or else that of the sender
    unsubscribeAddress := env.getOr "MAIL_UNSUBSCRIBE_ADDRESS" fromAddress
    mailerName := env.getOr "MAIL_MAILER_NAME" defaults.mailerName
    defaultSubject := env.getOr "MAIL_DEFAULT_SUBJECT" defaults.defaultSubject }

end MailSettings

/-- An ASCII letter in its small form; every other character as it is. -/
def asciiSmall (c : Char) : Char :=
  if 'A' ≤ c ∧ c ≤ 'Z' then Char.ofNat (c.toNat + 32) else c

/-- The program runs in production when the environment says so, in letters of
    either case. -/
def isProduction (env : Environment) : Bool :=
  (env.getOr "APP_ENV" "development").toList.map asciiSmall == "production".toList

end BlockMail
