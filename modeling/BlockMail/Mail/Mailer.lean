import BlockMail.Document
import BlockMail.Guard.Decision
import BlockMail.Mail.Address
import BlockMail.Mail.Outgoing
import BlockMail.Render.Message

/-! # The mailer

Sends a document to a recipient: the request is looked at, the guard is asked,
the document is rendered, and the message goes to a provider.

- `Mailer.compose` is the message that is made of a rendered document;
- `Mailer.fault?` is what is wrong with a request, before anybody is asked;
- `Mailer.send` is the whole way, with the effects of the guard and the provider.
-/

namespace BlockMail

open Guard (Decision)

/-- A document to be sent. -/
structure SendRequest where
  recipient : String
  document : Document
  /-- The organization on whose behalf the message is sent. -/
  organization : Option String := none
  templateId : Option String := none
  workflowExecutionId : Option String := none
  deriving DecidableEq, Inhabited

/-- What became of a request. -/
inductive SendOutcome where
  | sent (messageId : String) (rendered : Render.Message)
  /-- The organization is cut off from mail. -/
  | skipped (reason : String)
  deriving DecidableEq, Inhabited

/-- A provider with the settings for its messages and, perhaps, a guard. -/
structure Mailer (m : Type → Type) where
  settings : MailSettings
  provider : Provider m
  /-- Decides on organizations. -/
  guard : Option (String → m Decision) := none

namespace Mailer

/-! ## Composing a message -/

/-- The text without white space around it, unless nothing is left. -/
def trimmed? (value : Option String) : Option String :=
  Text.present? (value.map Text.trim)

/-- The name that the message comes from: that of the business, if it has one. -/
def senderName (settings : MailSettings) (branding : Option Branding) : String :=
  (trimmed? (branding.bind (·.businessName))).getD settings.senderName

/-- Where answers go: to the business, if it has an address. -/
def replyTo (settings : MailSettings) (branding : Option Branding) : String :=
  (trimmed? (branding.bind (·.email))).getD settings.fromAddress

/-- The further headers of a message. -/
def headers (settings : MailSettings) (request : SendRequest) : Dict String :=
  Dict.ofList
    ([ ("List-Unsubscribe", "<mailto:" ++ settings.unsubscribeAddress ++ "?subject=unsubscribe>"),
       ("List-Unsubscribe-Post", "List-Unsubscribe=One-Click"),
       ("X-Mailer", settings.mailerName),
       ("X-Priority", "3"),
       ("X-Auto-Response-Suppress", "OOF") ]
      ++ (request.templateId.map fun id => ("X-Template-ID", id)).toList
      ++ (request.workflowExecutionId.map fun id => ("X-Workflow-Execution", id)).toList)

/-- The message that is made of a rendered document. -/
def compose (settings : MailSettings) (request : SendRequest) (rendered : Render.Message) :
    OutgoingEmail :=
  let branding := request.document.branding
  { sender := senderName settings branding ++ " <" ++ settings.fromAddress ++ ">"
    recipient := Text.trim request.recipient
    replyTo := some (replyTo settings branding)
    subject := rendered.subject
    html := rendered.html
    text := rendered.text
    headers := headers settings request }

/-! ## Sending -/

/-- How messages are rendered. -/
def options (settings : MailSettings) : Render.Options :=
  .ofSettings settings false

/-- The document with a subject: a blank one is replaced by the default. -/
def withSubject (settings : MailSettings) (d : Document) : Document :=
  if Text.isBlank d.subject then { d with subject := settings.defaultSubject } else d

/-- What a request is rendered into. -/
def rendering (settings : MailSettings) (request : SendRequest) : Render.Message :=
  Render.render (withSubject settings request.document) (options settings)

/-- What is wrong with a request: its recipient, or else that no block is left. -/
def fault? (request : SendRequest) : Option MailError :=
  let recipient := Text.trim request.recipient
  if Address.isValid recipient then
    if request.document.blocks.isEmpty then
      some (.invalidInput "template has no renderable blocks")
    else none
  else some (.invalidEmail recipient)

/-- Why messages of an organization are skipped, if they are. -/
def skipReason? (d : Decision) : Option String :=
  if d.hardBlocked then some (d.reason.getD "messaging blocked") else none

variable {m : Type → Type} [Monad m]

/-- Asks the guard about the organization of a request, if there are both. -/
def consult (mailer : Mailer m) (request : SendRequest) : m (Option String) :=
  match mailer.guard, request.organization with
  | some guard, some organization => skipReason? <$> guard organization
  | _, _ => pure none

/-- Sends a document. -/
def send (mailer : Mailer m) (request : SendRequest) : m (Except MailError SendOutcome) :=
  match fault? request with
  | some fault => pure (.error fault)
  | none => do
    -- the guard is asked only about a request without faults
    match ← mailer.consult request with
    | some reason => pure (.ok (.skipped reason))
    | none =>
      let rendered := rendering mailer.settings request
      match ← mailer.provider.deliver (compose mailer.settings request rendered) with
      | .error e => pure (.error e)
      | .ok id => pure (.ok (.sent id rendered))

/-! ## Small lemmas -/

/-- A request with a fault ends there: nobody is asked and nothing is delivered. -/
theorem send_of_fault {mailer : Mailer m} {request : SendRequest} {fault : MailError}
    (h : fault? request = some fault) : mailer.send request = pure (.error fault) := by
  rw [send, h]

/-- Without an organization the guard is not asked. -/
theorem consult_of_no_organization {mailer : Mailer m} {request : SendRequest}
    (h : request.organization = none) : mailer.consult request = pure none := by
  unfold consult
  rw [h]
  cases mailer.guard <;> rfl

end Mailer

end BlockMail
