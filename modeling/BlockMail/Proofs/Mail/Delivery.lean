import BlockMail.Mail.DryRun
import BlockMail.Proofs.Guard.Scripted
import BlockMail.Proofs.Mail.Observation

/-! # What is sent and what is recorded

`Sending` lists all that can come of a request: what is wrong with it, what the guard says about
it, what the provider says.  The cases exclude each other, so they say in which order things are
looked at, and each of them says how often the provider is called and what becomes of the outbox
and of the guard.  `send_sending` says that the list is complete.

In a row of sends, with anything done to the guard between them, the outbox then records the
messages of the requests that were reported as sent, and nothing else (`perform_outbox`).
-/

namespace BlockMail

open Mailer (compose fault? rendering)

section Steps

variable {m : Type → Type} [Monad m]

/-! ## Counting calls -/

/-- The provider, with a count of the messages that are handed to it. -/
def Provider.counting (provider : Provider m) : Provider (StateT Nat m) where
  name := provider.name
  deliver email := fun n => (·, n + 1) <$> provider.deliver email
  health := provider.health

/-- The mailer with such a provider. -/
def Mailer.counting (mailer : Mailer m) : Mailer (StateT Nat m) where
  settings := mailer.settings
  provider := mailer.provider.counting
  guard := mailer.guard.map fun decide organization => fun n => (·, n) <$> decide organization

namespace Mailer

/-- How often the provider is called for a request that ends in a result. -/
def calls (request : SendRequest) : Except MailError SendOutcome → Nat
  | .ok (.skipped _) => 0
  | _ => if (fault? request).isSome then 0 else 1

theorem counting_eq_watched (mailer : Mailer m) :
    mailer.counting = mailer.watched fun _ n => n + 1 := rfl

theorem send_counting [LawfulMonad m] (mailer : Mailer m) (request : SendRequest) (n : Nat) :
    mailer.counting.send request n
      = (fun result => (result, n + calls request result)) <$> mailer.send request := by
  rw [counting_eq_watched, send_watched]
  refine congrArg (· <$> mailer.send request) (funext fun result => ?_)
  cases hfault : fault? request <;> rcases result with e | ⟨id, rendered⟩ | reason <;>
    simp [noted, calls, hfault]

end Mailer

end Steps

namespace DryRun

open Guard (Simulation)
open Mailer (calls)

/-! ## One request -/

/-- The guard lets a request pass: it is not asked, or does not block the organization. -/
inductive Passes (guarded : Bool) (request : SendRequest) (s : Simulation) : Simulation → Prop where
  | unasked (hunasked : guarded = false ∨ request.organization = none) : Passes guarded request s s
  | allowed {organization : String} (hguarded : guarded = true)
      (horganization : request.organization = some organization)
      (hallowed : (s.check organization).1.hardBlocked = false) :
      Passes guarded request s (s.check organization).2

/-- What can come of a request: how often the provider is called, the result, and the outbox and
    the guard behind it. -/
inductive Sending (ids : Nat → String) (settings : MailSettings) (failure : Option String)
    (guarded : Bool) (request : SendRequest) (o : Outbox) (s : Simulation) :
    Nat → Except MailError SendOutcome → Outbox → Simulation → Prop where
  | badRecipient (hrecipient : Address.isValid (Text.trim request.recipient) = false) :
      Sending ids settings failure guarded request o s 0
        (.error (.invalidEmail (Text.trim request.recipient))) o s
  | noBlocks (hrecipient : Address.isValid (Text.trim request.recipient) = true)
      (hblocks : request.document.blocks = []) :
      Sending ids settings failure guarded request o s 0
        (.error (.invalidInput "template has no renderable blocks")) o s
  | skipped {organization : String}
      (hrecipient : Address.isValid (Text.trim request.recipient) = true)
      (hblocks : request.document.blocks ≠ []) (hguarded : guarded = true)
      (horganization : request.organization = some organization)
      (hblocked : (s.check organization).1.hardBlocked = true) :
      Sending ids settings failure guarded request o s 0
        (.ok (.skipped ((s.check organization).1.reason.getD "messaging blocked"))) o
        (s.check organization).2
  | rejected {details : String} {s' : Simulation}
      (hrecipient : Address.isValid (Text.trim request.recipient) = true)
      (hblocks : request.document.blocks ≠ []) (hpasses : Passes guarded request s s')
      (hfailure : failure = some details) :
      Sending ids settings failure guarded request o s 1 (.error (.rejected 500 details)) o s'
  | sent {s' : Simulation} (hrecipient : Address.isValid (Text.trim request.recipient) = true)
      (hblocks : request.document.blocks ≠ []) (hpasses : Passes guarded request s s')
      (hfailure : failure = none) :
      Sending ids settings failure guarded request o s 1
        (.ok (.sent ("mock-" ++ ids o.size) (rendering settings request)))
        (o.add (compose settings request (rendering settings request))) s'

variable {ids : Nat → String} {settings : MailSettings} {failure : Option String} {guarded : Bool}
  {request : SendRequest} {o o' : Outbox} {s s' : Simulation}

theorem fault?_cases (request : SendRequest) :
    (Address.isValid (Text.trim request.recipient) = false
        ∧ fault? request = some (.invalidEmail (Text.trim request.recipient)))
      ∨ (Address.isValid (Text.trim request.recipient) = true ∧ request.document.blocks = []
        ∧ fault? request = some (.invalidInput "template has no renderable blocks"))
      ∨ (Address.isValid (Text.trim request.recipient) = true ∧ request.document.blocks ≠ []
        ∧ fault? request = none) := by
  cases hvalid : Address.isValid (Text.trim request.recipient) with
  | false => exact .inl ⟨rfl, by simp [fault?, hvalid]⟩
  | true =>
    cases hblocks : request.document.blocks with
    | nil => exact .inr (.inl ⟨rfl, rfl, by simp [fault?, hvalid, hblocks]⟩)
    | cons b rest =>
      exact .inr (.inr ⟨rfl, List.cons_ne_nil b rest, by simp [fault?, hvalid, hblocks]⟩)

theorem consult_of_passes (ids : Nat → String) (settings : MailSettings)
    (failure : Option String) (o : Outbox)
    (hpasses : Passes guarded request s s') :
    (mailer settings failure guarded ids).consult request o s = ((none, o), s') := by
  cases hpasses with
  | unasked hunasked =>
    cases hunasked with
    | inl hguarded =>
      rw [hguarded]
      rfl
    | inr horganization =>
      rw [Mailer.consult_of_no_organization horganization]
      rfl
  | @allowed organization hguarded horganization hallowed =>
    unfold Mailer.consult mailer
    rw [hguarded, horganization]
    show ((Mailer.skipReason? (s.check organization).1, o), (s.check organization).2) = _
    rw [Mailer.skipReason?, hallowed]
    rfl

theorem consult_of_blocked (ids : Nat → String) (settings : MailSettings)
    (failure : Option String) (o : Outbox)
    {organization : String} (hguarded : guarded = true)
    (horganization : request.organization = some organization)
    (hblocked : (s.check organization).1.hardBlocked = true) :
    (mailer settings failure guarded ids).consult request o s
      = ((some ((s.check organization).1.reason.getD "messaging blocked"), o),
        (s.check organization).2) := by
  unfold Mailer.consult mailer
  rw [hguarded, horganization]
  show ((Mailer.skipReason? (s.check organization).1, o), (s.check organization).2) = _
  rw [Mailer.skipReason?, hblocked]
  rfl

theorem passes_or_blocked (guarded : Bool) (request : SendRequest) (s : Simulation) :
    (∃ s', Passes guarded request s s')
      ∨ ∃ organization, guarded = true ∧ request.organization = some organization
        ∧ (s.check organization).1.hardBlocked = true := by
  cases hguarded : guarded with
  | false => exact .inl ⟨s, .unasked (.inl rfl)⟩
  | true =>
    cases horganization : request.organization with
    | none => exact .inl ⟨s, .unasked (.inr horganization)⟩
    | some organization =>
      cases hdecision : (s.check organization).1.hardBlocked with
      | true => exact .inr ⟨organization, rfl, rfl, hdecision⟩
      | false => exact .inl ⟨_, .allowed rfl horganization hdecision⟩

theorem bind_of_eq {α β : Type} {x : DryRun α} {f : α → DryRun β} {a : α}
    (h : x o s = ((a, o'), s')) : (x >>= f) o s = f a o' s' := by
  simp [bind, StateT.bind, h]

theorem map_of_eq {α β : Type} {x : DryRun α} (f : α → β) {a : α}
    (h : x o s = ((a, o'), s')) : (f <$> x) o s = ((f a, o'), s') := by
  simp only [Functor.map, StateT.map, bind, StateT.bind, h]
  rfl

theorem send_eq_of_fault {fault : MailError} (hfault : fault? request = some fault) :
    (mailer settings failure guarded ids).send request o s = ((.error fault, o), s) := by
  rw [Mailer.send_of_fault hfault]
  rfl

theorem send_of_consult {consulted : Option String} (hfault : fault? request = none)
    (hconsult : (mailer settings failure guarded ids).consult request o s = ((consulted, o), s')) :
    (mailer settings failure guarded ids).send request o s
      = match consulted, failure with
        | some reason, _ => ((.ok (.skipped reason), o), s')
        | none, some details => ((.error (.rejected 500 details), o), s')
        | none, none =>
          ((.ok (.sent ("mock-" ++ ids o.size) (rendering settings request)),
            o.add (compose settings request (rendering settings request))), s') := by
  rw [Mailer.send_of_no_fault hfault, bind_of_eq hconsult]
  cases consulted with
  | some reason => rfl
  | none => cases failure <;> rfl

theorem send_cases (ids : Nat → String) (settings : MailSettings) (failure : Option String)
    (guarded : Bool) (request : SendRequest) (o : Outbox) (s : Simulation) :
    ∃ result o' s', (mailer settings failure guarded ids).send request o s = ((result, o'), s')
      ∧ Sending ids settings failure guarded request o s (calls request result) result o' s' := by
  rcases fault?_cases request with ⟨hrecipient, hfault⟩ | ⟨hrecipient, hblocks, hfault⟩ |
    ⟨hrecipient, hblocks, hfault⟩
  · refine ⟨_, _, _, send_eq_of_fault hfault, ?_⟩
    simp only [calls, hfault]
    exact .badRecipient hrecipient
  · refine ⟨_, _, _, send_eq_of_fault hfault, ?_⟩
    simp only [calls, hfault]
    exact .noBlocks hrecipient hblocks
  · rcases passes_or_blocked guarded request s with
      ⟨s', hpasses⟩ | ⟨organization, hguarded, horganization, hblocked⟩
    · have hsend := send_of_consult hfault (consult_of_passes ids settings failure o hpasses)
      cases hfailure : failure with
      | some details =>
        rw [hfailure] at hsend
        refine ⟨_, _, _, hsend, ?_⟩
        simp only [calls, hfault]
        exact .rejected hrecipient hblocks hpasses rfl
      | none =>
        rw [hfailure] at hsend
        refine ⟨_, _, _, hsend, ?_⟩
        simp only [calls, hfault]
        exact .sent hrecipient hblocks hpasses rfl
    · have hconsult := consult_of_blocked ids settings failure o hguarded horganization hblocked
      exact ⟨_, _, _, send_of_consult hfault hconsult,
        .skipped hrecipient hblocks hguarded horganization hblocked⟩

theorem send_sending (ids : Nat → String) (settings : MailSettings) (failure : Option String)
    (guarded : Bool) (request : SendRequest) (o : Outbox) (s : Simulation) :
    ∃ result o' s', send (mailer settings failure guarded ids) request o s = (result, o', s')
      ∧ Sending ids settings failure guarded request o s (calls request result) result o' s'
      ∧ ∀ n, (mailer settings failure guarded ids).counting.send request n o s
        = (((result, n + calls request result), o'), s') := by
  obtain ⟨result, o', s', hsend, hsending⟩ := send_cases ids settings failure guarded request o s
  refine ⟨result, o', s', ?_, hsending, fun n => ?_⟩
  · unfold send
    rw [hsend]
  · rw [Mailer.send_counting]
    exact map_of_eq _ hsend

/-! ## A row of requests -/

/-- A request and what came of it. -/
structure Attempt where
  settings : MailSettings
  request : SendRequest
  result : Except MailError SendOutcome

/-- The message of an attempt, if it was reported as sent. -/
def Attempt.mail? (a : Attempt) : Option OutgoingEmail :=
  match a.result with
  | .ok (.sent _ rendered) => some (compose a.settings a.request rendered)
  | _ => none

inductive Step where
  /-- A request goes to a mailer with these settings. -/
  | send (settings : MailSettings) (guarded : Bool) (request : SendRequest)
  /-- Something is done to the guard or its source, or time goes by. -/
  | guard (instruction : Simulation.Instruction)

def Step.request? : Step → Option (MailSettings × SendRequest)
  | .send settings _ request => some (settings, request)
  | .guard _ => none

/-- The attempts in their order, and the outbox and the guard in the end. -/
def perform (ids : Nat → String) (failure : Option String) :
    List Step → Outbox → Simulation → List Attempt × Outbox × Simulation
  | [], o, s => ([], o, s)
  | .send settings guarded request :: steps, o, s =>
    let (result, o, s) := send (mailer settings failure guarded ids) request o s
    let (attempts, o, s) := perform ids failure steps o s
    (⟨settings, request, result⟩ :: attempts, o, s)
  | .guard instruction :: steps, o, s => perform ids failure steps o (s.perform instruction).2

namespace Sending

variable {n : Nat} {result : Except MailError SendOutcome}

theorem messages_eq (h : Sending ids settings failure guarded request o s n result o' s') :
    o'.messages = o.messages ++ (Attempt.mail? ⟨settings, request, result⟩).toList := by
  cases h with
  | sent => rfl
  | _ => exact (List.append_nil _).symm

theorem rendered_eq (h : Sending ids settings failure guarded request o s n result o' s')
    {id : String} {rendered : Render.Message} (hresult : result = .ok (.sent id rendered)) :
    rendered = rendering settings request := by
  cases h with
  | sent =>
    cases hresult
    rfl
  | _ => cases hresult

theorem guard_eq (h : Sending ids settings failure guarded request o s n result o' s')
    (hunasked : Address.isValid (Text.trim request.recipient) = false
      ∨ request.document.blocks = [] ∨ request.organization = none) : s' = s := by
  have hnot : Address.isValid (Text.trim request.recipient) = true →
      request.document.blocks ≠ [] → ∀ organization, request.organization ≠ some organization := by
    intro hrecipient hblocks organization horganization
    rcases hunasked with hinvalid | hempty | hnone
    · cases hinvalid.symm.trans hrecipient
    · exact hblocks hempty
    · cases hnone.symm.trans horganization
  have hpassed : Address.isValid (Text.trim request.recipient) = true →
      request.document.blocks ≠ [] → Passes guarded request s s' → s' = s := by
    intro hrecipient hblocks hpasses
    cases hpasses with
    | unasked => rfl
    | allowed _ horganization => exact absurd horganization (hnot hrecipient hblocks _)
  cases h with
  | badRecipient => rfl
  | noBlocks => rfl
  | skipped hrecipient hblocks _ horganization =>
    exact absurd horganization (hnot hrecipient hblocks _)
  | rejected hrecipient hblocks hpasses => exact hpassed hrecipient hblocks hpasses
  | sent hrecipient hblocks hpasses => exact hpassed hrecipient hblocks hpasses

end Sending

theorem Sending.guard_after {n : Nat} {result : Except MailError SendOutcome}
    (h : Sending ids settings failure guarded request o s n result o' s') :
    ∃ instructions, s' = s.after instructions := by
  have hpassed : Passes guarded request s s' → ∃ instructions, s' = s.after instructions := by
    intro hpasses
    cases hpasses with
    | unasked => exact ⟨[], rfl⟩
    | @allowed organization => exact ⟨[.check organization], rfl⟩
  cases h with
  | badRecipient | noBlocks => exact ⟨[], rfl⟩
  | @skipped organization => exact ⟨[.check organization], rfl⟩
  | rejected _ _ hpasses => exact hpassed hpasses
  | sent _ _ hpasses => exact hpassed hpasses

theorem perform_send (ids : Nat → String) (failure : Option String) (settings : MailSettings)
    (guarded : Bool) (request : SendRequest) (steps : List Step)
    {result : Except MailError SendOutcome}
    (h : send (mailer settings failure guarded ids) request o s = (result, o', s')) :
    perform ids failure (.send settings guarded request :: steps) o s
      = (⟨settings, request, result⟩ :: (perform ids failure steps o' s').1,
        (perform ids failure steps o' s').2) := by
  rw [perform, h]

/-- The guard of a row of requests goes through instructions.  So it is a scripted guard, and what
    it says of a request is what a check of a run returns (`Guard.Simulation.scripted_guard`). -/
theorem perform_guard (ids : Nat → String) (failure : Option String) (steps : List Step)
    (o : Outbox) (s : Simulation) :
    ∃ instructions, (perform ids failure steps o s).2.2 = s.after instructions := by
  induction steps generalizing o s with
  | nil => exact ⟨[], rfl⟩
  | cons step steps ih =>
    cases step with
    | guard instruction =>
      obtain ⟨instructions, hafter⟩ := ih o (s.perform instruction).2
      exact ⟨instruction :: instructions, hafter⟩
    | send settings guarded request =>
      obtain ⟨result, o', s', hsend, hsending, -⟩ :=
        send_sending ids settings failure guarded request o s
      obtain ⟨first, hfirst⟩ := hsending.guard_after
      obtain ⟨instructions, hafter⟩ := ih o' s'
      rw [perform_send ids failure settings guarded request steps hsend, hafter, hfirst]
      exact ⟨first ++ instructions, (List.foldl_append ..).symm⟩

theorem perform_attempts (ids : Nat → String) (failure : Option String) (steps : List Step)
    (o : Outbox) (s : Simulation) :
    (perform ids failure steps o s).1.map (fun a => (a.settings, a.request))
        = steps.filterMap Step.request?
      ∧ (perform ids failure steps o s).2.1.messages
        = o.messages ++ (perform ids failure steps o s).1.filterMap Attempt.mail?
      ∧ ∀ a ∈ (perform ids failure steps o s).1, ∀ id rendered,
          a.result = .ok (.sent id rendered) → rendered = rendering a.settings a.request := by
  induction steps generalizing o s with
  | nil =>
    rw [perform]
    exact ⟨rfl, (List.append_nil _).symm, List.forall_mem_nil _⟩
  | cons step steps ih =>
    cases step with
    | guard instruction =>
      rw [perform]
      exact ih o (s.perform instruction).2
    | send settings guarded request =>
      obtain ⟨result, o', s', hsend, hsending, -⟩ :=
        send_sending ids settings failure guarded request o s
      -- the outbox grows by the mail of this attempt, and the later attempts start from there
      obtain ⟨hrequests, hmessages, hrendered⟩ := ih o' s'
      rw [perform_send ids failure settings guarded request steps hsend]
      refine ⟨?_, ?_, List.forall_mem_cons.mpr ⟨fun id rendered => hsending.rendered_eq, hrendered⟩⟩
      · rw [List.map_cons, hrequests]
        rfl
      · rw [hmessages, hsending.messages_eq, List.append_assoc, List.filterMap_cons]
        cases Attempt.mail? ⟨settings, request, result⟩ <;> rfl

/-- **Delivery.**  Whatever is sent, whatever is done to the guard in between, and whatever ids the
    provider makes up, every request has its result, and the outbox records, in order, the messages
    of the requests whose result says so.  What comes of a request is decided in the order of
    `Sending`.  The guard is left alone if the recipient is not accepted, no block is left, or there
    is no organization. -/
theorem deliveries_recorded (ids : Nat → String) (failure : Option String) :
    (∀ steps o s,
      (perform ids failure steps o s).1.map (fun a => (a.settings, a.request))
          = steps.filterMap Step.request?
        ∧ (perform ids failure steps o s).2.1.messages
          = o.messages ++ (perform ids failure steps o s).1.filterMap Attempt.mail?
        ∧ ∀ a ∈ (perform ids failure steps o s).1, ∀ id rendered,
            a.result = .ok (.sent id rendered) → rendered = rendering a.settings a.request)
      ∧ ∀ settings guarded request o s, ∃ result o' s',
          send (mailer settings failure guarded ids) request o s = (result, o', s')
            ∧ Sending ids settings failure guarded request o s (calls request result) result o' s'
            ∧ (∀ n, (mailer settings failure guarded ids).counting.send request n o s
              = (((result, n + calls request result), o'), s'))
            ∧ (Address.isValid (Text.trim request.recipient) = false
                ∨ request.document.blocks = [] ∨ request.organization = none → s' = s) := by
  refine ⟨perform_attempts ids failure, fun settings guarded request o s => ?_⟩
  obtain ⟨result, o', s', hsend, hsending, hcount⟩ :=
    send_sending ids settings failure guarded request o s
  exact ⟨result, o', s', hsend, hsending, hcount, hsending.guard_eq⟩

end DryRun

end BlockMail
