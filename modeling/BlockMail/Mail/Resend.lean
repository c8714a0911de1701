import BlockMail.Http.Exchange
import BlockMail.Json.Printer
import BlockMail.Json.Record
import BlockMail.Json.Tree
import BlockMail.Mail.Outgoing
import BlockMail.Settings.Environment

/-! # Delivery through Resend

A message is one request to the web service: the body describes the message, and
the key of the account goes into a header.

- `Resend.body` is the body; its fields come in a fixed order, and those that a
  message does not have are left out;
- `Resend.request?` is the request.  There is none if the service's address is no
  web address or the key cannot stand in a header;
- `Resend.outcome` is what a response says about the delivery.
-/

namespace BlockMail

open Json (Field Record Value)

/-- An account with the service. -/
structure ResendAccount where
  apiKey : String
  /-- Address of the service, without a slash at its end. -/
  apiUrl : String
  deriving DecidableEq, Repr, Inhabited

namespace ResendAccount

def defaultUrl : String := "https://api.resend.com"

/-- The text without the slashes at its end. -/
def withoutTrailingSlashes (s : String) : String :=
  String.ofList ((s.toList.reverse.dropWhile (· == '/')).reverse)

/-- An account at an address. -/
def of (apiKey apiUrl : String) : ResendAccount :=
  ⟨apiKey, withoutTrailingSlashes apiUrl⟩

/-- The account in the environment.  There has to be a key. -/
def ofEnvironment (env : Environment) : Except SettingError ResendAccount := do
  let apiKey ← env.require "RESEND_API_KEY"
  return of apiKey (env.getOr "RESEND_API_URL" defaultUrl)

end ResendAccount

namespace Resend

/-- A member that is left out when there is no value. -/
def member? (name : String) (value : Option Value) : List (String × Value) :=
  (value.map fun v => (name, v)).toList

def headers? (email : OutgoingEmail) : Option Value :=
  if email.headers.entries.isEmpty then none
  else some (.object (email.headers.entries.map fun e => (e.1, .string e.2)))

/-- The description of a message. -/
def body (email : OutgoingEmail) : Value :=
  .object
    ([ ("from", .string email.sender), ("to", .array [.string email.recipient]),
       ("subject", .string email.subject), ("html", .string email.html),
       ("text", .string email.text) ]
      ++ member? "reply_to" (email.replyTo.map .string)
      ++ member? "headers" (headers? email))

/-- The request that delivers a message.  Who the service's address says asks comes
    before the key. -/
def request? (account : ResendAccount) (email : OutgoingEmail) : Option Http.Request := do
  let url ← Http.Url.parse? (account.apiUrl ++ "/emails")
  -- credentials in the address take the place of the key
  let key := "Bearer " ++ account.apiKey
  if Http.isHeaderValue key then
    return { method := "POST", url
             authorization := (url.credentials.map (·.header)).getD key
             contentType := "application/json"
             body := (body email).toText }
  else none

/-- Reads a structure that has one text field, which must be there. -/
def readField? (field : Field) (text : String) : Option String := do
  let t ← (Json.read text).tree?
  let r ← Record.read? [field] t.outermost
  r.required 0 Json.readString

/-- What the service calls the message, in the body of a success. -/
def messageId? (text : String) : Option String := readField? ["id"] text

/-- The text of a refusal: what a well-formed body says, and otherwise the whole
    body. -/
def refusal (text : String) : String := (readField? ["message"] text).getD text

/-- What a response says about the delivery. -/
def outcome (r : Http.Response) : Except MailError String :=
  if r.isSuccess then
    match messageId? r.body with
    | some id => .ok id
    | none => .error (.provider "Unexpected Resend response")
  else .error (.rejected r.status (refusal r.body))

/-- Whether the key looks like a key of the service. -/
def health (account : ResendAccount) : Except MailError Bool :=
  if "re_".toList.isPrefixOf account.apiKey.toList then .ok true
  else .error (.config "Invalid Resend API key format")

/-- Delivers through an account.  `post` exchanges a request for a response, or
    says why that failed. -/
def provider {m : Type → Type} [Monad m] (account : ResendAccount)
    (post : Http.Request → m (Except String Http.Response)) : Provider m where
  name := "Resend"
  deliver email := do
    match request? account email with
    | none => return .error (.provider "the request cannot be built")
    | some request =>
      match ← post request with
      | .error details => return .error (.provider details)
      | .ok response => return outcome response
  health := health account

end Resend

end BlockMail
