import BlockMail.Proofs.CommandLine.Deeds
import BlockMail.Proofs.Mail.Delivery
import BlockMail.Proofs.Mail.Resend

/-! # Sending from the command line

What has to hold before a document is sent is looked at in a fixed order, and everything before the
server is asked: the document, the key of the account, the recipient, the blocks.  `FirstFailure`
is the first thing that is wrong, and the answer of the server comes last.  Whatever happens, on
whatever host, a request that is made is for the whole mail, and besides the lines of the log
something is printed only of a mail that was accepted (`SendEnds`).
-/

namespace BlockMail.CommandLine

open Mailer (fault? message rendering)
open Resend (Acknowledges Reports)

/-! ## What was done -/

/-- What appears on standard output. -/
def standardOutput (write : LogEvent → String) (deeds : List Deed) : String :=
  String.join (deeds.map (Deed.shown write))

/-- What appears there if nobody writes the log down. -/
def printedText (deeds : List Deed) : String := standardOutput (fun _ => "") deeds

def eventsOf (deeds : List Deed) : List LogEvent := deeds.filterMap Deed.event?

def exchangesOf (deeds : List Deed) : List (Http.Request × Except String Http.Response) :=
  deeds.filterMap Deed.exchange?

/-- The name that an answer gives to a mail, which it accepts. -/
def Accepted (deeds : List Deed) (id : String) : Prop :=
  ∃ request answer, (request, .ok answer) ∈ exchangesOf deeds ∧ Acknowledges answer id

/-! ## Conditions -/

/-- What was read is a document. -/
def Holds (text? : Option String) (d : Document) : Prop :=
  ∃ text, text? = some text ∧ Document.read (Json.read text) = some d

/-- Where the environment has mails delivered. -/
def deliveryAddress (env : Environment) : String :=
  ResendAccount.withoutTrailingSlashes (env.getOr "RESEND_API_URL" ResendAccount.defaultUrl)
    ++ "/emails"

/-- The address is that of a server, and the key, if there is one, can be told to it. -/
structure Reachable (env : Environment) : Prop where
  address : (Http.Url.parse? (deliveryAddress env)).isSome = true
  key : ∀ key, env.text? "RESEND_API_KEY" = some key → Http.isHeaderValue key = true

/-- What a command asks the mailer for. -/
def sendRequest (recipient : String) (templateId workflowExecutionId : Option String)
    (d : Document) : SendRequest :=
  { recipient, document := d, templateId, workflowExecutionId }

/-- There is a document that can be sent. -/
structure Ready (env : Environment) (recipient : String) (text? : Option String) (d : Document) :
    Prop where
  document : Holds text? d
  credentials : env.text? "RESEND_API_KEY" ≠ none
  recipient : Address.isValid (Text.trim recipient) = true
  blocks : d.blocks ≠ []

/-- The first thing that is wrong with a command to send. -/
inductive FirstFailure (env : Environment) (input recipient : String) (text? : Option String)
    (deeds : List Deed) : Failure → Prop
  | unreadable (h : text? = none) :
      FirstFailure env input recipient text? deeds (.unreadable input)
  | noDocument {text : String} (htext : text? = some text)
      (h : Document.read (Json.read text) = none) :
      FirstFailure env input recipient text? deeds (.noDocument input)
  | credentials {d : Document} (hd : Holds text? d) (h : env.text? "RESEND_API_KEY" = none) :
      FirstFailure env input recipient text? deeds (.account (.missing "RESEND_API_KEY"))
  | recipient {d : Document} (hd : Holds text? d) (hkey : env.text? "RESEND_API_KEY" ≠ none)
      (h : Address.isValid (Text.trim recipient) = false) :
      FirstFailure env input recipient text? deeds
        (.undelivered (.invalidEmail (Text.trim recipient)))
  | blocks {d : Document} (hd : Holds text? d) (hkey : env.text? "RESEND_API_KEY" ≠ none)
      (hrecipient : Address.isValid (Text.trim recipient) = true) (h : d.blocks = []) :
      FirstFailure env input recipient text? deeds
        (.undelivered (.invalidInput "template has no renderable blocks"))
  | refused {d : Document} (hready : Ready env recipient text? d) {request : Http.Request}
      {answer : Http.Response} {e : MailError}
      (hanswer : (request, .ok answer) ∈ exchangesOf deeds) (h : Reports answer (.error e)) :
      FirstFailure env input recipient text? deeds (.undelivered e)
  | unanswered {d : Document} (hready : Ready env recipient text? d) {request : Http.Request}
      {details : String} (h : (request, .error details) ∈ exchangesOf deeds) :
      FirstFailure env input recipient text? deeds (.undelivered (.provider details))

theorem Holds.unique {text? : Option String} {d d' : Document} (h : Holds text? d)
    (h' : Holds text? d') : d = d' := by
  obtain ⟨text, htext, hd⟩ := h
  obtain ⟨text', htext', hd'⟩ := h'
  cases htext.symm.trans htext'
  exact Option.some.inj (hd.symm.trans hd')

/-! ## How a command ends -/

/-- What is said about a text that is read. -/
def remarks (text? : Option String) : List LogEvent :=
  match text? with
  | some text => (Document.notices (Json.read text)).map .noticed
  | none => []

/-- How a command to send ends, where a text was read or could not be read: with what result, and
    what was done on the way. -/
structure SendEnds (env : Environment) (input recipient : String)
    (templateId workflowExecutionId : Option String) (text? : Option String)
    (result : Except Failure Unit) (deeds : List Deed) : Prop where
  /-- The document is read, and nothing else is done with files. -/
  files : deeds.filter Deed.isOnFiles = [.read input text?]
  asks : exchangesOf deeds ≠ [] ↔ ∃ d, Ready env recipient text? d
  /-- There is one request, which says the whole mail. -/
  once : ∀ d, Ready env recipient text? d → ∃ request received,
    exchangesOf deeds = [(request, received)]
      ∧ Resend.mail? request.body = some (message (.ofEnvironment env)
        (sendRequest recipient templateId workflowExecutionId d))
  sent : ∀ id, (result = .ok () ∧ printedText deeds = "Sent: " ++ id ++ "\n") ↔ Accepted deeds id
  failed : (∀ id, ¬ Accepted deeds id) →
    printedText deeds = "" ∧ ∃ failure, result = .error failure
      ∧ FirstFailure env input recipient text? deeds failure
  /-- The log begins at once, goes on with what the text gives rise to, and has more in it only if
      there is something to send. -/
  log : ∃ later, eventsOf deeds = .started (isProduction env) :: remarks text? ++ later
    ∧ (later ≠ [] ↔ ∃ d, Ready env recipient text? d)
  /-- Whoever writes the log down does so before anything is printed. -/
  output : ∀ write, standardOutput write deeds
    = String.join ((eventsOf deeds).map write) ++ printedText deeds

/-! ## Steps -/

section Steps

variable {m : Type → Type} [Monad m] [LawfulMonad m] (host : Host m)

/-- The document in what was read of a file. -/
def documentIn (input : String) : Option String → Except Failure Document
  | none => .error (.unreadable input)
  | some text =>
    match Document.read (Json.read text) with
    | none => .error (.noDocument input)
    | some d => .ok d

theorem document_records {input : String} {reads : Option String → Prop}
    (h : Gives (host.readText input) reads) :
    Records (host.document input).run (host.watched.document input).run fun result deeds =>
      ∃ text?, reads text? ∧ result = documentIn input text?
        ∧ deeds = .read input text? :: (remarks text?).map .logged := by
  refine Records.bindLift (host.readText_records h) ?_
  rintro text? - ⟨htext, rfl⟩
  cases text? with
  | none => exact .pure ⟨none, htext, rfl, rfl⟩
  | some text =>
    refine Records.bindLift (host.logAll_records _) ?_
    rintro - - rfl
    cases hd : Document.read (Json.read text) with
    | none => exact .pure ⟨some text, htext, by simp only [documentIn, hd], by simp [remarks]⟩
    | some d => exact .pure ⟨some text, htext, by simp only [documentIn, hd], by simp [remarks]⟩

/-- What an answer, or the want of one, says about a delivery. -/
def answered : Except String Http.Response → Except MailError String
  | .ok answer => Resend.outcome answer
  | .error details => .error (.provider details)

theorem deliver_records {account : ResendAccount} {email : OutgoingEmail} {request : Http.Request}
    {answers : Except String Http.Response → Prop} (before : OutgoingEmail → List LogEvent)
    (after : OutgoingEmail → Except MailError String → List LogEvent)
    (h : Resend.request? account email = some request)
    (hpost : Gives (host.post request) answers) :
    Records ((host.logging before after (Resend.provider account host.post)).deliver email)
      ((host.watched.logging before after
        (Resend.provider account host.watched.post)).deliver email)
      fun result deeds => ∃ received, answers received ∧ result = answered received
        ∧ deeds = (before email).map .logged ++ .posted request received
          :: (after email result).map .logged := by
  have hdeliver : Records ((Resend.provider account host.post).deliver email)
      ((Resend.provider account host.watched.post).deliver email) fun result deeds =>
        ∃ received, answers received ∧ result = answered received
          ∧ deeds = [.posted request received] := by
    simp only [Resend.provider, h]
    refine (host.post_records hpost).bind ?_
    rintro received - ⟨hreceived, rfl⟩
    cases received <;> exact .pure ⟨_, hreceived, rfl, rfl⟩
  refine (host.logAll_records _).bind ?_
  rintro - - rfl
  refine hdeliver.bind ?_
  rintro result - ⟨received, hreceived, hresult, rfl⟩
  refine (host.logAll_records _).bind ?_
  rintro - - rfl
  exact .pure ⟨received, hreceived, hresult, by simp⟩

end Steps

/-! ## The account -/

section Account

variable {env : Environment}

theorem ofEnvironment_of_unset (h : env.text? "RESEND_API_KEY" = none) :
    ResendAccount.ofEnvironment env = .error (.missing "RESEND_API_KEY") := by
  simp [ResendAccount.ofEnvironment, Environment.require, h]

theorem ofEnvironment_of_key {key : String} (h : env.text? "RESEND_API_KEY" = some key) :
    ResendAccount.ofEnvironment env
      = .ok (.of key (env.getOr "RESEND_API_URL" ResendAccount.defaultUrl)) := by
  simp [ResendAccount.ofEnvironment, Environment.require, h]

theorem isHeaderValue_bearer {key : String} (h : Http.isHeaderValue key = true) :
    Http.isHeaderValue ("Bearer " ++ key) = true := by
  have hbearer : Http.isHeaderValue "Bearer " = true := by decide
  unfold Http.isHeaderValue at h hbearer ⊢
  rw [String.toList_append, List.all_append, hbearer, h]
  rfl

theorem Reachable.exists_account (h : Reachable env) (hset : env.text? "RESEND_API_KEY" ≠ none) :
    ∃ account, ResendAccount.ofEnvironment env = .ok account
      ∧ ∀ email, ∃ request, Resend.request? account email = some request := by
  obtain ⟨key, hkey⟩ := Option.ne_none_iff_exists'.mp hset
  obtain ⟨url, hurl⟩ := Option.isSome_iff_exists.mp h.address
  unfold deliveryAddress at hurl
  refine ⟨_, ofEnvironment_of_key hkey, fun email => ?_⟩
  simp [Resend.request?, ResendAccount.of, hurl, isHeaderValue_bearer (h.key key hkey)]

end Account

/-! ## The deeds of a command -/

section Views

variable {write : LogEvent → String} {deeds more : List Deed} {events : List LogEvent}

@[simp] theorem standardOutput_append : standardOutput write (deeds ++ more)
    = standardOutput write deeds ++ standardOutput write more := by
  simp [standardOutput]

@[simp] theorem standardOutput_logged :
    standardOutput write (events.map .logged) = String.join (events.map write) := by
  simp [standardOutput, Function.comp_def, Deed.shown]

@[simp] theorem eventsOf_append : eventsOf (deeds ++ more) = eventsOf deeds ++ eventsOf more :=
  List.filterMap_append

@[simp] theorem eventsOf_logged : eventsOf (events.map .logged) = events := by
  simp [eventsOf, Deed.event?, Function.comp_def]

@[simp] theorem exchangesOf_append :
    exchangesOf (deeds ++ more) = exchangesOf deeds ++ exchangesOf more :=
  List.filterMap_append

@[simp] theorem exchangesOf_logged : exchangesOf (events.map .logged) = [] := by
  simp [exchangesOf, Deed.exchange?]

@[simp] theorem filter_isOnFiles_logged :
    (events.map Deed.logged).filter Deed.isOnFiles = [] := by
  simp [Deed.isOnFiles]

@[simp] theorem printedText_append :
    printedText (deeds ++ more) = printedText deeds ++ printedText more :=
  standardOutput_append

@[simp] theorem printedText_logged : printedText (events.map .logged) = "" := by
  rw [printedText, standardOutput_logged]
  induction events with
  | nil => rfl
  | cons event events ih => simpa using ih

end Views

section Endings

variable {env : Environment} {input recipient : String}
  {templateId workflowExecutionId text? : Option String} {d : Document}

/-- What is done before the document is looked at. -/
def opening (env : Environment) (input : String) (text? : Option String) : List Deed :=
  [.logged (.started (isProduction env)), .read input text?] ++ (remarks text?).map .logged

@[simp] theorem eventsOf_opening :
    eventsOf (opening env input text?) = .started (isProduction env) :: remarks text? := by
  rw [opening, eventsOf_append, eventsOf_logged]
  rfl

@[simp] theorem exchangesOf_opening : exchangesOf (opening env input text?) = [] := by
  rw [opening, exchangesOf_append, exchangesOf_logged]
  rfl

@[simp] theorem files_opening :
    (opening env input text?).filter Deed.isOnFiles = [.read input text?] := by
  rw [opening, List.filter_append, filter_isOnFiles_logged]
  rfl

@[simp] theorem standardOutput_opening (write : LogEvent → String) :
    standardOutput write (opening env input text?)
      = write (.started (isProduction env)) ++ String.join ((remarks text?).map write) := by
  rw [opening, standardOutput_append, standardOutput_logged]
  simp [standardOutput, Deed.shown]

@[simp] theorem printedText_opening : printedText (opening env input text?) = "" := by
  rw [opening, printedText_append, printedText_logged]
  rfl

theorem sendEnds_of_not_ready {failure : Failure} (hunready : ¬ ∃ d, Ready env recipient text? d)
    (hfirst : FirstFailure env input recipient text? (opening env input text?) failure) :
    SendEnds env input recipient templateId workflowExecutionId text? (.error failure)
      (opening env input text?) where
  files := files_opening
  asks := iff_of_false (by simp) hunready
  once d hd := absurd ⟨d, hd⟩ hunready
  sent id := iff_of_false nofun (by simp [Accepted])
  failed _ := ⟨printedText_opening, failure, rfl, hfirst⟩
  log := ⟨[], by simp, iff_of_false (by simp) hunready⟩
  output write := by simp

theorem sent_inj {id id' : String} (h : "Sent: " ++ id ++ "\n" = "Sent: " ++ id' ++ "\n") :
    id = id' := by
  have htext := congrArg String.toList h
  simp only [String.toList_append] at htext
  exact String.toList_inj.mp (List.append_cancel_left (List.append_cancel_right htext))

/-- What is done with the answer to a request, and with what result. -/
def concluded : Except MailError String → Except Failure Unit × List Deed
  | .ok id => (.ok (), [.logged (.accepted id), .printed ("Sent: " ++ id ++ "\n")])
  | .error e => (.error (.undelivered e), [])

/-- What is done to deliver a message. -/
def delivery (before : List LogEvent) (after : Except MailError String → List LogEvent)
    (request : Http.Request) (received : Except String Http.Response) : List Deed :=
  before.map .logged ++ [.posted request received] ++ (after (answered received)).map .logged
    ++ (concluded (answered received)).2

section Delivery

variable {before : List LogEvent} {after : Except MailError String → List LogEvent}
  {request : Http.Request} {received : Except String Http.Response}

@[simp] theorem exchangesOf_delivery :
    exchangesOf (delivery before after request received) = [(request, received)] := by
  simp only [delivery, exchangesOf_append, exchangesOf_logged]
  cases answered received <;> rfl

@[simp] theorem files_delivery :
    (delivery before after request received).filter Deed.isOnFiles = [] := by
  simp only [delivery, List.filter_append, filter_isOnFiles_logged]
  cases answered received <;> rfl

theorem printedText_delivery : printedText (delivery before after request received)
    = match answered received with
      | .ok id => "Sent: " ++ id ++ "\n"
      | .error _ => "" := by
  simp only [delivery, printedText_append, printedText_logged]
  cases answered received with
  | error e => rfl
  | ok id => simp [concluded, printedText, standardOutput, Deed.shown]

theorem eventsOf_delivery_ne_nil (h : before ≠ []) :
    eventsOf (delivery before after request received) ≠ [] := by
  simp [delivery, h]

theorem standardOutput_delivery (write : LogEvent → String) :
    standardOutput write (delivery before after request received)
      = String.join ((eventsOf (delivery before after request received)).map write)
        ++ printedText (delivery before after request received) := by
  simp only [delivery, standardOutput_append, standardOutput_logged, eventsOf_append,
    eventsOf_logged, printedText_append, printedText_logged, List.map_append, String.join_append]
  cases answered received <;>
    simp [concluded, standardOutput, eventsOf, printedText, Deed.shown, Deed.event?,
      List.filterMap_cons, String.append_assoc]

theorem accepted_iff {id : String} :
    Accepted (opening env input text? ++ delivery before after request received) id
      ↔ answered received = .ok id := by
  simp only [Accepted, exchangesOf_append, exchangesOf_opening, exchangesOf_delivery]
  cases received with
  | error details => simp [answered]
  | ok answer => simp [answered, (Resend.outcome_reports answer).accepted]

theorem sendEnds_of_ready (hbefore : before ≠ []) (hready : Ready env recipient text? d)
    (hmail : Resend.mail? request.body = some (message (.ofEnvironment env)
      (sendRequest recipient templateId workflowExecutionId d))) :
    SendEnds env input recipient templateId workflowExecutionId text?
      (concluded (answered received)).1
      (opening env input text? ++ delivery before after request received) where
  files := by simp
  asks := iff_of_true (by simp) ⟨d, hready⟩
  once d' hready' := by
    cases hready.document.unique hready'.document
    exact ⟨request, received, by simp, hmail⟩
  sent id := by
    rw [accepted_iff, printedText_append, printedText_opening, printedText_delivery]
    cases answered received with
    | error e => simp [concluded]
    | ok id' =>
      refine ⟨fun h => congrArg _ (sent_inj (by simpa using h.2)), fun h => ?_⟩
      cases h
      exact ⟨rfl, by simp⟩
  failed hnone := by
    simp only [accepted_iff] at hnone
    rw [printedText_append, printedText_opening, printedText_delivery]
    have hexchange : (request, received) ∈ exchangesOf
        (opening env input text? ++ delivery before after request received) := by simp
    cases received with
    | error details => exact ⟨rfl, _, rfl, .unanswered hready hexchange⟩
    | ok answer =>
      have hreports := Resend.outcome_reports answer
      cases houtcome : Resend.outcome answer with
      | ok id => exact absurd houtcome (hnone id)
      | error e =>
        rw [houtcome] at hreports
        simp only [answered, houtcome]
        exact ⟨rfl, _, rfl, .refused hready hexchange hreports⟩
  log := ⟨_, by rw [eventsOf_append, eventsOf_opening],
    iff_of_true (eventsOf_delivery_ne_nil hbefore) ⟨d, hready⟩⟩
  output write := by simp [standardOutput_delivery, String.append_assoc]

/-- The two ways that a command can go: it stops before anything is delivered, or the answer to the
    one request decides. -/
inductive Course (env : Environment) (input recipient : String)
    (templateId workflowExecutionId : Option String)
    (answers : Except String Http.Response → Prop) (text? : Option String) :
    Except Failure Unit → List Deed → Prop
  | stopped {failure : Failure} (hunready : ¬ ∃ d, Ready env recipient text? d)
      (hfirst : FirstFailure env input recipient text? (opening env input text?) failure) :
      Course env input recipient templateId workflowExecutionId answers text? (.error failure)
        (opening env input text?)
  | delivered {d : Document} (hready : Ready env recipient text? d) {before : List LogEvent}
      {after : Except MailError String → List LogEvent} (hbefore : before ≠ [])
      {request : Http.Request} {received : Except String Http.Response}
      (hreceived : answers received)
      (hmail : Resend.mail? request.body = some (message (.ofEnvironment env)
        (sendRequest recipient templateId workflowExecutionId d))) :
      Course env input recipient templateId workflowExecutionId answers text?
        (concluded (answered received)).1
        (opening env input text? ++ delivery before after request received)

variable {answers : Except String Http.Response → Prop} {result : Except Failure Unit}
  {deeds : List Deed}

theorem Course.answers_mem
    (h : Course env input recipient templateId workflowExecutionId answers text? result deeds) :
    ∀ e ∈ exchangesOf deeds, answers e.2 := by
  cases h with
  | stopped => simp
  | delivered _ _ hreceived => simpa using hreceived

theorem Course.sendEnds
    (h : Course env input recipient templateId workflowExecutionId answers text? result deeds) :
    SendEnds env input recipient templateId workflowExecutionId text? result deeds := by
  cases h with
  | stopped hunready hfirst => exact sendEnds_of_not_ready hunready hfirst
  | delivered hready hbefore _ hmail => exact sendEnds_of_ready hbefore hready hmail

end Delivery

end Endings

/-! ## The command -/

section Command

variable {m : Type → Type} [Monad m] [LawfulMonad m] (host : Host m) {env : Environment}
  {input recipient : String} {templateId workflowExecutionId text? : Option String} {d : Document}
  {answers : Except String Http.Response → Prop}

theorem mailer_send_records {account : ResendAccount} {request : SendRequest}
    {sent : Http.Request} (hfault : fault? request = none)
    (horganization : request.organization = none)
    (hsent : Resend.request? account (message (.ofEnvironment env) request) = some sent)
    (hpost : Gives (host.post sent) answers) :
    Records ((host.mailer env account request).send request)
      ((host.watched.mailer env account request).send request) fun result deeds =>
        ∃ received, answers received
          ∧ result = (answered received).map
            (fun id => .sent id (rendering (.ofEnvironment env) request))
          ∧ deeds ++ (concluded (answered received)).2
            = delivery (eventsBefore request (message (.ofEnvironment env) request))
              (eventsAfter request (message (.ofEnvironment env) request)) sent received := by
  simp only [Mailer.send_of_no_fault hfault, Mailer.consult_of_no_organization horganization,
    pure_bind, Mailer.conclude_none]
  refine (deliver_records host _ _ hsent hpost).map ?_
  rintro - - ⟨received, hreceived, rfl, rfl⟩
  exact ⟨received, hreceived, rfl, by simp [delivery]⟩

theorem Holds.of_documentIn (h : documentIn input text? = .ok d) : Holds text? d := by
  cases text? with
  | none => cases h
  | some text =>
    simp only [documentIn] at h
    cases hd : Document.read (Json.read text) with
    | none => simp [hd] at h
    | some d' =>
      simp only [hd] at h
      cases h
      exact ⟨text, rfl, hd⟩

theorem firstFailure_of_documentIn {failure : Failure} {deeds : List Deed}
    (h : documentIn input text? = .error failure) :
    (¬ ∃ d, Ready env recipient text? d)
      ∧ FirstFailure env input recipient text? deeds failure := by
  cases text? with
  | none =>
    cases h
    refine ⟨?_, .unreadable rfl⟩
    rintro ⟨d, hready⟩
    obtain ⟨text, htext, -⟩ := hready.document
    cases htext
  | some text =>
    simp only [documentIn] at h
    cases hd : Document.read (Json.read text) with
    | some d => simp [hd] at h
    | none =>
      simp only [hd] at h
      cases h
      refine ⟨?_, .noDocument rfl hd⟩
      rintro ⟨d, hready⟩
      obtain ⟨text', htext, hd'⟩ := hready.document
      cases htext
      cases hd.symm.trans hd'

theorem send_records_of_fault {account : ResendAccount} {request : SendRequest} {fault : MailError}
    (haccount : ResendAccount.ofEnvironment env = .ok account)
    (hfault : fault? request = some fault) {q : Except Failure Unit → List Deed → Prop}
    (hq : q (.error (.undelivered fault)) []) :
    Records (host.send env request).run (host.watched.send env request).run q := by
  unfold Host.send
  simp only [haccount, Mailer.send_of_fault hfault]
  refine Records.bindLift (p := fun result deeds => result = .error fault ∧ deeds = [])
    (.pure ⟨rfl, rfl⟩) ?_
  rintro - - ⟨rfl, rfl⟩
  exact .pure hq

theorem send_records {account : ResendAccount} {request : SendRequest} {sent : Http.Request}
    (haccount : ResendAccount.ofEnvironment env = .ok account) (hfault : fault? request = none)
    (horganization : request.organization = none)
    (hsent : Resend.request? account (message (.ofEnvironment env) request) = some sent)
    (hpost : Gives (host.post sent) answers) :
    Records (host.send env request).run (host.watched.send env request).run fun result deeds =>
      ∃ received, answers received ∧ result = (concluded (answered received)).1
        ∧ deeds = delivery (eventsBefore request (message (.ofEnvironment env) request))
          (eventsAfter request (message (.ofEnvironment env) request)) sent received := by
  unfold Host.send
  simp only [haccount]
  refine Records.bindLift (mailer_send_records host hfault horganization hsent hpost) ?_
  rintro - deeds ⟨received, hreceived, rfl, hdeeds⟩
  cases hanswered : answered received with
  | error e =>
    rw [hanswered] at hdeeds
    exact .pure ⟨received, hreceived, by rw [hanswered]; rfl, hdeeds⟩
  | ok id =>
    rw [hanswered] at hdeeds
    refine Records.bindLift (host.log_records _) ?_
    rintro - - rfl
    refine (host.print_records _).map ?_
    rintro - - rfl
    exact ⟨received, hreceived, by rw [hanswered]; rfl, by simpa [concluded] using hdeeds⟩

/-- Behind the document nothing is done until everything else has been looked at. -/
theorem send_course (input : String) (h : Reachable env) (hd : Holds text? d)
    (hpost : ∀ request, Gives (host.post request) answers) :
    Records (host.send env (sendRequest recipient templateId workflowExecutionId d)).run
      (host.watched.send env (sendRequest recipient templateId workflowExecutionId d)).run
      fun result more => Course env input recipient templateId workflowExecutionId answers text?
        result (opening env input text? ++ more) := by
  have hstopped {failure : Failure} (hunready : ¬ ∃ d, Ready env recipient text? d)
      (hfirst : FirstFailure env input recipient text? (opening env input text?) failure) :
      Course env input recipient templateId workflowExecutionId answers text? (.error failure)
        (opening env input text? ++ []) := by
    rw [List.append_nil]
    exact .stopped hunready hfirst
  by_cases hset : env.text? "RESEND_API_KEY" = none
  · unfold Host.send
    simp only [ofEnvironment_of_unset hset]
    exact .pure (hstopped (fun ⟨_, hready⟩ => hready.credentials hset) (.credentials hd hset))
  obtain ⟨account, haccount, hrequests⟩ := h.exists_account hset
  rcases DryRun.fault?_cases (sendRequest recipient templateId workflowExecutionId d) with
    ⟨hrecipient, hfault⟩ | ⟨hrecipient, hblocks, hfault⟩ | ⟨hrecipient, hblocks, hfault⟩
  · refine send_records_of_fault host haccount hfault
      (hstopped ?_ (.recipient hd hset hrecipient))
    rintro ⟨d', hready⟩
    cases hrecipient.symm.trans hready.recipient
  · refine send_records_of_fault host haccount hfault
      (hstopped ?_ (.blocks hd hset hrecipient hblocks))
    rintro ⟨d', hready⟩
    cases hready.document.unique hd
    exact hready.blocks hblocks
  · obtain ⟨sent, hsent⟩ := hrequests (message (.ofEnvironment env)
      (sendRequest recipient templateId workflowExecutionId d))
    refine (send_records host haccount hfault rfl hsent (hpost sent)).imp ?_
    rintro - - ⟨received, hreceived, rfl, rfl⟩
    refine .delivered ⟨hd, hset, hrecipient, hblocks⟩ (List.cons_ne_nil _ _) hreceived ?_
    rw [Resend.body_of_request? hsent, Resend.mail?_body]
    rfl

theorem run_course {reads : Option String → Prop} (h : Reachable env)
    (hread : Gives (host.readText input) reads)
    (hpost : ∀ request, Gives (host.post request) answers) :
    Records ((Command.send input recipient templateId workflowExecutionId).run host env).run
      ((Command.send input recipient templateId workflowExecutionId).run host.watched env).run
      fun result deeds => ∃ text?, reads text?
        ∧ Course env input recipient templateId workflowExecutionId answers text? result deeds := by
  refine Records.bindLift (host.log_records _) ?_
  rintro - - rfl
  refine Records.bindExcept (document_records host hread) ?_ ?_
  · rintro failure - ⟨text?, htext, hfailure, rfl⟩
    obtain ⟨hunready, hfirst⟩ := firstFailure_of_documentIn hfailure.symm
    exact ⟨text?, htext, .stopped hunready hfirst⟩
  · rintro d - ⟨text?, htext, hd, rfl⟩
    exact (send_course host input h (.of_documentIn hd.symm) hpost).imp
      fun result more hmore => ⟨text?, htext, hmore⟩

end Command

/-- **A command to send has no partial effects**, whatever the host does, what can be read on it
    (`reads`) and what is answered (`answers`).  One text is read, there is one request if something
    can be sent and none otherwise, and the name of the message is printed if the answer accepts it;
    in every other case the first thing that is wrong is reported, and nothing is printed.  On
    standard output there are only the lines of the log besides. -/
theorem send_without_partial_effects {m : Type → Type} [Monad m] [LawfulMonad m] (host : Host m)
    {env : Environment} (h : Reachable env) (input recipient : String)
    (templateId workflowExecutionId : Option String) {reads : Option String → Prop}
    (hread : Gives (host.readText input) reads) {answers : Except String Http.Response → Prop}
    (hpost : ∀ request, Gives (host.post request) answers) :
    Records ((Command.send input recipient templateId workflowExecutionId).run host env).run
      ((Command.send input recipient templateId workflowExecutionId).run host.watched env).run
      fun result deeds => ∃ text?, reads text? ∧ (∀ e ∈ exchangesOf deeds, answers e.2)
        ∧ SendEnds env input recipient templateId workflowExecutionId text? result deeds := by
  refine (run_course host h hread hpost).imp ?_
  rintro result deeds ⟨text?, htext, hcourse⟩
  exact ⟨text?, htext, hcourse.answers_mem, hcourse.sendEnds⟩

/-- A document with a block that can be shown and an entry that cannot. -/
def deskText : String :=
  "\x7b\"blocks\":[\x7b\"type\":\"poll\"\x7d,\x7b\"type\":\"divider\"\x7d]\x7d"

def deskValue : Json.Value :=
  .object [("blocks", .array
    [.object [("type", .string "poll")], .object [("type", .string "divider")]])]

/-- The text of an answer that accepts a mail. -/
def deskReply : String := "\x7b\"id\":\"m-1\"\x7d"

/-- A host on which every path leads to one text or nowhere, and a server says the same to all. -/
def desk (text? : Option String) (answer : Http.Response) : Host (StateM (List Http.Request)) where
  readText _ := pure text?
  createFolder _ := pure false
  writeText _ _ := pure false
  print _ := pure ()
  log _ := pure ()
  post request := fun requests =>
    match answer.received? with
    | some received => (.ok received, requests ++ [request])
    | none => (.error "there is no final response", requests ++ [request])

def deskEnvironment : Environment
  | "RESEND_API_KEY" => some (.text "re_1")
  | "RESEND_API_URL" => some (.text "http://[::1]:9//")
  | _ => none

theorem desk_reachable : Reachable deskEnvironment where
  address := by decide +kernel
  key key hkey := by
    cases hkey
    decide

theorem desk_gives (text? : Option String) (answer : Http.Response) (path : String) :
    Gives ((desk text? answer).readText path) (· = text?) :=
  ⟨pure ⟨text?, rfl⟩, rfl⟩

theorem desk_post_gives {answer received : Http.Response} (text? : Option String)
    (h : answer.received? = some received) (request : Http.Request) :
    Gives ((desk text? answer).post request) (· = .ok received) := by
  refine ⟨fun requests => (⟨.ok received, rfl⟩, requests ++ [request]), ?_⟩
  simp only [desk, h]
  rfl

theorem exists_desk_ready :
    ∃ d, Ready deskEnvironment " x@y.z " (some deskText) d := by
  have htext : deskText = deskValue.toText := by decide
  have hblocks : (Document.read (Json.read deskText)).any (fun d => !d.blocks.isEmpty) = true := by
    rw [Document.read, htext, Json.read_toText]
    decide +kernel
  obtain ⟨d, hd, hsome⟩ := (Option.any_eq_true _ _).mp hblocks
  exact ⟨d, ⟨deskText, rfl, hd⟩, by decide, by decide +kernel, by simpa using hsome⟩

theorem deskReply_acknowledges {status : Nat} (h : 200 ≤ status ∧ status ≤ 299) :
    Acknowledges ⟨status, deskReply⟩ "m-1" := by
  have htext : deskReply = (Json.Value.object [("id", .string "m-1")]).toText := by decide
  have hread : (Json.read deskReply).tree? = some (.object
      [(Json.unitsOf "id", .string (Json.unitsOf "m-1"))]) := by
    rw [htext, Json.read_toText]
    rfl
  exact ⟨h, _, hread, .member (by decide) rfl (Json.textOf?_unitsOf "m-1")⟩

/-- The command that is given at the desk. -/
def deskCommand : Command := .send "/mail.json" " x@y.z " (some "t") none

theorem send_without_partial_effects_desk :
    Reachable deskEnvironment
      ∧ Gives ((desk (some deskText) ⟨201, deskReply⟩).readText "/mail.json") (· = some deskText)
      ∧ (∀ request, Gives ((desk (some deskText) ⟨201, deskReply⟩).post request)
        (· = .ok ⟨201, deskReply⟩))
      ∧ ∃ deeds requests,
        deskCommand.run (desk (some deskText) ⟨201, deskReply⟩) deskEnvironment []
            = (.ok (), requests)
          ∧ deskCommand.run (desk (some deskText) ⟨201, deskReply⟩).watched deskEnvironment [] []
            = ((.ok (), deeds), requests)
          ∧ printedText deeds = "Sent: m-1\n" := by
  have hread := desk_gives (some deskText) ⟨201, deskReply⟩ "/mail.json"
  have hpost := desk_post_gives (some deskText)
    (show (⟨201, deskReply⟩ : Http.Response).received? = some ⟨201, deskReply⟩ from rfl)
  obtain ⟨result, deeds, requests, hrun, hwatched, text?, rfl, hanswers, hends⟩ :=
    (send_without_partial_effects (desk (some deskText) ⟨201, deskReply⟩) desk_reachable
      "/mail.json" " x@y.z " (some "t") none hread hpost).exists_result []
  obtain ⟨d, hready⟩ := exists_desk_ready
  obtain ⟨request, received, hexchanges, -⟩ := hends.once d hready
  have haccepted : Accepted deeds "m-1" := by
    rw [hexchanges, List.forall_mem_singleton] at hanswers
    subst hanswers
    exact ⟨request, _, by rw [hexchanges]; exact List.mem_singleton_self _,
      deskReply_acknowledges (by decide)⟩
  obtain ⟨rfl, hprinted⟩ := (hends.sent "m-1").mpr haccepted
  exact ⟨desk_reachable, hread, hpost, deeds, requests, hrun, hwatched, hprinted⟩

theorem desk_course {env : Environment} (h : Reachable env) {answer received : Http.Response}
    (hreceived : answer.received? = some received) : ∃ result deeds requests,
      deskCommand.run (desk (some deskText) answer).watched env [] [] = ((result, deeds), requests)
        ∧ Course env "/mail.json" " x@y.z " (some "t") none (· = .ok received) (some deskText)
          result deeds := by
  have hread := desk_gives (some deskText) answer "/mail.json"
  have hpost := desk_post_gives (some deskText) hreceived
  obtain ⟨result, deeds, requests, -, hwatched, text?, rfl, hcourse⟩ :=
    (run_course (desk (some deskText) answer) h hread hpost).exists_result []
  exact ⟨result, deeds, requests, hwatched, hcourse⟩

/-- The key is set, but not to a text. -/
def scrambledKey : Environment :=
  fun name => if name = "RESEND_API_KEY" then some .notUnicode else deskEnvironment name

theorem scrambledKey_reachable : Reachable scrambledKey where
  address := by decide +kernel
  key := nofun

/-- A body that does not arrive accepts nothing, whatever it says; the log is on standard output
    where nothing is printed; and a key that is no text is none. -/
theorem send_limits :
    (Acknowledges ⟨204, deskReply⟩ "m-1" ∧ ∃ failure deeds requests,
      deskCommand.run (desk (some deskText) ⟨204, deskReply⟩).watched deskEnvironment [] []
          = ((.error failure, deeds), requests)
        ∧ (∃ d, Ready deskEnvironment " x@y.z " (some deskText) d) ∧ printedText deeds = "")
    ∧ (∃ failure deeds,
      deskCommand.run (desk none ⟨201, deskReply⟩).watched deskEnvironment [] []
          = ((.error failure, deeds), [])
        ∧ standardOutput (LogEvent.written (isProduction deskEnvironment)) deeds ≠ "")
    ∧ scrambledKey "RESEND_API_KEY" ≠ none ∧ ∃ deeds requests,
      deskCommand.run (desk (some deskText) ⟨201, deskReply⟩).watched scrambledKey [] []
          = ((.error (.account (.missing "RESEND_API_KEY")), deeds), requests)
        ∧ exchangesOf deeds = [] := by
  refine ⟨⟨deskReply_acknowledges (by decide), ?_⟩, ⟨_, _, rfl, by decide⟩, by decide, ?_⟩
  · obtain ⟨result, deeds, requests, hwatched, hcourse⟩ :=
      desk_course desk_reachable
        (show (⟨204, deskReply⟩ : Http.Response).received? = some ⟨204, ""⟩ from rfl)
    have hready := exists_desk_ready
    cases hcourse with
    | stopped hunready => exact absurd hready hunready
    | @delivered d _ before after _ request received hreceived =>
      subst hreceived
      have hanswered :
          answered (.ok ⟨204, ""⟩) = .error (.provider "Unexpected Resend response") := by
        decide +kernel
      rw [hanswered] at hwatched
      refine ⟨_, _, _, hwatched, hready, ?_⟩
      rw [printedText_append, printedText_opening, printedText_delivery, hanswered]
      rfl
  · obtain ⟨result, deeds, requests, hwatched, hcourse⟩ := desk_course scrambledKey_reachable
      (show (⟨201, deskReply⟩ : Http.Response).received? = some ⟨201, deskReply⟩ from rfl)
    obtain ⟨d, hready⟩ := exists_desk_ready
    have hunset : scrambledKey.text? "RESEND_API_KEY" = none := rfl
    cases hcourse with
    | delivered hready' => exact absurd hunset hready'.credentials
    | stopped _ hfirst =>
      cases hfirst with
      | unreadable hnone => cases hnone
      | credentials => exact ⟨_, _, hwatched, exchangesOf_opening⟩
      | noDocument htext hnone =>
        cases htext
        obtain ⟨text, htext, hd⟩ := hready.document
        cases htext
        cases hnone.symm.trans hd
      | recipient _ hkey | blocks _ hkey => exact absurd hunset hkey
      | refused hready' | unanswered hready' => exact absurd hunset hready'.credentials

end BlockMail.CommandLine
