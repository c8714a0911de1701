import BlockMail.Mail.Mailer

/-! # Watching a provider

A provider can be watched: something is noted of each message that is handed to it, in a state of
its own beside the effects of the provider.  Watching changes nothing else, and what is noted of a
request can be read off its result (`send_watched`): the message of the request, once, unless the
request had a fault or the guard stopped it.
-/

namespace BlockMail

open Mailer (compose fault? rendering)

variable {m : Type → Type} [Monad m]

namespace Mailer

/-- What follows the guard's word on a request. -/
def conclude (mailer : Mailer m) (request : SendRequest) :
    Option String → m (Except MailError SendOutcome)
  | some reason => pure (.ok (.skipped reason))
  | none => do
    let rendered := rendering mailer.settings request
    match ← mailer.provider.deliver (compose mailer.settings request rendered) with
    | .error e => pure (.error e)
    | .ok id => pure (.ok (.sent id rendered))

theorem send_of_no_fault {mailer : Mailer m} {request : SendRequest}
    (h : fault? request = none) :
    mailer.send request = mailer.consult request >>= mailer.conclude request := by
  unfold send
  rw [h]
  refine congrArg (mailer.consult request >>= ·) (funext fun consulted => ?_)
  cases consulted <;> rfl

/-- The message that a request is made into. -/
def message (settings : MailSettings) (request : SendRequest) : OutgoingEmail :=
  compose settings request (rendering settings request)

theorem conclude_none [LawfulMonad m] (mailer : Mailer m) (request : SendRequest) :
    mailer.conclude request none
      = Except.map (fun id => .sent id (rendering mailer.settings request))
        <$> mailer.provider.deliver (message mailer.settings request) := by
  rw [conclude, map_eq_pure_bind]
  refine bind_congr fun answer => ?_
  cases answer <;> rfl

theorem run_map_of_eq {World α β : Type} {x : StateM World α} (f : α → β) {w w' : World} {a : α}
    (h : x w = (a, w')) : (f <$> x) w = (f a, w') := by
  show (f (x w).1, (x w).2) = (f a, w')
  rw [h]

end Mailer

section Watching

variable {σ : Type} (note : OutgoingEmail → σ → σ)

/-- The provider, with a note of each message that is handed to it. -/
def Provider.watched (provider : Provider m) : Provider (StateT σ m) where
  name := provider.name
  deliver email := fun s => (·, note email s) <$> provider.deliver email
  health := provider.health

/-- The mailer with such a provider. -/
def Mailer.watched (mailer : Mailer m) : Mailer (StateT σ m) where
  settings := mailer.settings
  provider := mailer.provider.watched note
  guard := mailer.guard.map fun decide organization => fun s => (·, s) <$> decide organization

namespace Mailer

/-- The notes behind a request that ends in a result. -/
def noted (settings : MailSettings) (request : SendRequest) (s : σ) :
    Except MailError SendOutcome → σ
  | .ok (.skipped _) => s
  | _ => if (fault? request).isSome then s else note (message settings request) s

@[simp] theorem watched_settings (mailer : Mailer m) :
    (mailer.watched note).settings = mailer.settings := rfl

theorem pure_watched {α : Type} (a : α) (s : σ) : (pure a : StateT σ m α) s = pure (a, s) := rfl

variable [LawfulMonad m]

theorem consult_watched (mailer : Mailer m) (request : SendRequest) (s : σ) :
    (mailer.watched note).consult request s = (·, s) <$> mailer.consult request := by
  unfold consult watched
  cases mailer.guard with
  | none => simp [pure_watched]
  | some decide =>
    cases request.organization with
    | none => simp [pure_watched]
    | some organization => simp [Functor.map, StateT.map]

theorem conclude_watched (mailer : Mailer m) {request : SendRequest}
    (h : fault? request = none) (consulted : Option String) (s : σ) :
    (mailer.watched note).conclude request consulted s
      = (fun result => (result, noted note mailer.settings request s result))
        <$> mailer.conclude request consulted := by
  cases consulted with
  | some reason => simp [conclude, pure_watched, noted]
  | none =>
    rw [conclude_none, conclude_none]
    have hdeliver (email : OutgoingEmail) :
        StateT.run ((mailer.watched note).provider.deliver email) s
          = (·, note email s) <$> mailer.provider.deliver email := rfl
    show StateT.run (_ <$> (mailer.watched note).provider.deliver _) s = _
    rw [StateT.run_map, hdeliver, Functor.map_map, Functor.map_map]
    refine congrArg (· <$> mailer.provider.deliver _) (funext fun answer => ?_)
    cases answer <;> simp [Except.map, noted, h]

theorem send_watched (mailer : Mailer m) (request : SendRequest) (s : σ) :
    (mailer.watched note).send request s
      = (fun result => (result, noted note mailer.settings request s result))
        <$> mailer.send request := by
  cases hfault : fault? request with
  | some fault =>
    rw [send_of_fault hfault, send_of_fault hfault]
    simp [pure_watched, noted, hfault]
  | none =>
    rw [send_of_no_fault hfault, send_of_no_fault hfault]
    show ((mailer.watched note).consult request s >>= fun p => _) = _
    rw [consult_watched, bind_map_left, map_bind]
    exact bind_congr fun consulted => conclude_watched note mailer hfault consulted s

end Mailer

end Watching

end BlockMail
