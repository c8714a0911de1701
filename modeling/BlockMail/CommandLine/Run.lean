import BlockMail.CommandLine.Command
import BlockMail.Log
import BlockMail.Mail.Mailer
import BlockMail.Mail.Resend

/-! # Carrying out commands

A command is carried out on a `Host`, which reads and writes files, prints, keeps
the log, and talks to web servers.  A command stops at the first thing that fails.
-/

namespace BlockMail.CommandLine

/-- What commands need of their surroundings, with effects in `m`. -/
structure Host (m : Type → Type) where
  /-- The text in a file, if there is a file and it holds text. -/
  readText : String → m (Option String)
  /-- Makes a folder and those it is in, unless they are there.  Whether it is
      there in the end. -/
  createFolder : String → m Bool
  /-- Writes a text into a file.  Whether that was possible. -/
  writeText : String → String → m Bool
  print : String → m Unit
  /-- Takes note of an event, for whoever watches. -/
  log : LogEvent → m Unit
  /-- Exchanges a request for a response, or says why that failed. -/
  post : Http.Request → m (Except String Http.Response)

/-- Why a command was not carried out. -/
inductive Failure where
  | unreadable (path : String)
  | noDocument (path : String)
  | noContext (path : String)
  | noFolder (path : String)
  | unwritable (path : String)
  /-- The account with the provider cannot be used. -/
  | account (error : SettingError)
  | undelivered (error : MailError)
  deriving DecidableEq, Repr, Inhabited

namespace Failure

/-- The wording of a failure. -/
def message : Failure → String
  | .unreadable path => "Failed to read " ++ path
  | .noDocument path => path ++ " is not a valid template document"
  | .noContext path => path ++ " is not a flat object of strings"
  | .noFolder path => "Failed to create " ++ path
  | .unwritable path => "Failed to write " ++ path
  | .account _ => "Failed to configure Resend provider"
  | .undelivered _ => "Failed to send email"

/-- The mail error behind a failure. -/
def cause? : Failure → Option MailError
  | .account e => some e.toMailError
  | .undelivered e => some e
  | _ => none

end Failure

/-- The path of a file in a folder. -/
def inFolder (folder name : String) : String :=
  if folder.toList.getLast? = some '/' then folder ++ name else folder ++ "/" ++ name

variable {m : Type → Type} [Monad m]

namespace Host

def logAll (host : Host m) (events : List LogEvent) : m Unit := events.forM host.log

/-- Reads the document in a file. -/
def document (host : Host m) (path : String) : ExceptT Failure m Document := do
  match ← host.readText path with
  | none => throw (.unreadable path)
  | some text =>
    let reading := Json.read text
    -- what was dropped is said even if there is no document in the end
    host.logAll ((Document.notices reading).map .noticed)
    match Document.read reading with
    | none => throw (.noDocument path)
    | some d => return d

/-- Reads the context in a file. -/
def context (host : Host m) (path : String) : ExceptT Failure m Context := do
  match ← host.readText path with
  | none => throw (.unreadable path)
  | some text =>
    match (Json.read text).tree?.bind fun t => Context.read t.outermost with
    | none => throw (.noContext path)
    | some c => return c

/-- Writes a text into a file. -/
def write (host : Host m) (path text : String) : ExceptT Failure m Unit := do
  unless ← host.writeText path text do throw (.unwritable path)

/-- Writes a rendered document into a folder. -/
def writeMessage (host : Host m) (folder : String) (message : Render.Message) :
    ExceptT Failure m Unit := do
  unless ← host.createFolder folder do throw (.noFolder folder)
  host.write (inFolder folder "email.html") message.html
  host.write (inFolder folder "email.txt") message.text

/-- A provider whose deliveries are logged, before and after. -/
def logging (host : Host m) (before : OutgoingEmail → List LogEvent)
    (after : OutgoingEmail → Except MailError String → List LogEvent) (provider : Provider m) :
    Provider m where
  name := provider.name
  deliver email := do
    host.logAll (before email)
    let result ← provider.deliver email
    host.logAll (after email result)
    return result
  health := provider.health

end Host

/-- What is said when a document has been rendered. -/
def renderedEvent (d : Document) (html text : String) : LogEvent :=
  .rendered d.blocks.length html.utf8ByteSize text.utf8ByteSize

/-- What is said before a message goes to the provider. -/
def eventsBefore (request : SendRequest) (email : OutgoingEmail) : List LogEvent :=
  [ renderedEvent request.document email.html email.text,
    .sending email.recipient email.subject email.headers.size ]

/-- What is said when the provider has answered. -/
def eventsAfter (request : SendRequest) (email : OutgoingEmail) :
    Except MailError String → List LogEvent
  | .ok id =>
    [.delivered email.recipient id, .sent id email.subject (request.templateId.getD "")]
  | .error (.rejected status details) => [.refused email.recipient status details]
  | .error _ => []

/-- The mailer that delivers a request through an account. -/
def Host.mailer (host : Host m) (env : Environment) (account : ResendAccount)
    (request : SendRequest) : Mailer m where
  settings := .ofEnvironment env
  provider := host.logging (eventsBefore request) (eventsAfter request)
    (Resend.provider account host.post)

/-- Sends a document through the account in the environment. -/
def Host.send (host : Host m) (env : Environment) (request : SendRequest) :
    ExceptT Failure m Unit := do
  match ResendAccount.ofEnvironment env with
  | .error e => throw (.account e)
  | .ok account =>
    match ← (host.mailer env account request).send request with
    | .error e => throw (.undelivered e)
    | .ok (.sent id _) =>
      host.log (.accepted id)
      host.print ("Sent: " ++ id ++ "\n")
    | .ok (.skipped reason) => host.print ("Skipped: " ++ reason ++ "\n")

/-- Prints a rendered document. -/
def printed (message : Render.Message) : String :=
  "Subject: " ++ message.subject ++ "\n\n" ++ message.html ++ "\n\n" ++ message.text ++ "\n"

/-- Says where a rendered document is. -/
def whereabouts (folder : String) (message : Render.Message) : String :=
  "Subject: " ++ message.subject ++ "\nHTML: " ++ inFolder folder "email.html"
    ++ "\nText: " ++ inFolder folder "email.txt" ++ "\n"

/-- What a command does once there is somebody to watch. -/
def Command.perform (host : Host m) (env : Environment) : Command → ExceptT Failure m Unit
  | .render input folder preview => do
    let d ← host.document input
    let message := Render.render d (.ofSettings (.ofEnvironment env) preview)
    host.log (renderedEvent d message.html message.text)
    match folder with
    | none => host.print (printed message)
    | some folder =>
      host.writeMessage folder message
      host.print (whereabouts folder message)
  | .resolve template data => do
    -- without a file nothing is known
    let c ← match data with
      | none => pure ∅
      | some path => host.context path
    host.print (Placeholder.resolve template c ++ "\n")
  | .send input recipient templateId workflowExecutionId => do
    -- the document is read first, so a missing account is noticed after a missing file
    let d ← host.document input
    host.send env { recipient, document := d, templateId, workflowExecutionId }

/-- Carries out a command. -/
def Command.run (host : Host m) (env : Environment) (command : Command) :
    ExceptT Failure m Unit := do
  host.log (.started (isProduction env))
  command.perform host env

end BlockMail.CommandLine
