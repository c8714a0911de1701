import BlockMail.Proofs.Guard.Beside

/-! # One caller less

A caller is cancelled while another one waits on the same lookup.  The guard is compared with one
whose caller was not cancelled and goes on with the others, when the lookup is answered.

Which of the callers puts the answer into the slot may differ between the two, so they do not
agree after every event.  `Counterpart` says how they are related: in the second guard one caller
more waits (`waits`), or that caller has gone on before any other (`ahead`), or there is no
difference any more (`done`).  Where callers go on at once, all that happens while one of them is
ahead is that the others go on too.
-/

namespace BlockMail.Guard

open State

/-! ## Prompt runs -/

/-- The caller to whom something happens. -/
def Happening.caller : Happening → Nat
  | .asked caller _ | .joined caller _ | .returned caller _ _ _ => caller

/-- A caller can go on: the lookup that it waits on is answered. -/
def State.CanResume (s : State) (caller : Nat) : Prop :=
  ∃ ticket a, s.waiter? caller = some ⟨caller, ticket⟩ ∧ s.answers ticket = some a

/-- Nobody can go on. -/
def State.Quiet (s : State) : Prop := ∀ caller, ¬ s.CanResume caller

/-- A caller goes on, or there is none that can. -/
def Event.InTurn (s : State) (e : Event) : Prop :=
  s.Quiet ∨ ∃ caller, e = .resume caller ∧ s.CanResume caller

/-- Callers go on at the moment at which their lookup is answered: while one of them can go on
    nothing else happens, and in the end there is none that can. -/
def Prompt (lifetimes : Lifetimes) (s : State) : List Event → Prop
  | [] => s.Quiet
  | e :: events => e.InTurn s ∧ Prompt lifetimes (step lifetimes s e).1 events

/-- A caller waits on a lookup until that is answered. -/
def WaitsItOut (lifetimes : Lifetimes) (caller : Nat) (ticket : Ticket) (s : State) :
    List Event → Prop
  | [] => s.answers ticket = none → s.waiter? caller = some ⟨caller, ticket⟩
  | e :: events =>
    (s.answers ticket = none → s.waiter? caller = some ⟨caller, ticket⟩)
      ∧ WaitsItOut lifetimes caller ticket (step lifetimes s e).1 events

/-- The events without those at which a caller goes on. -/
def without (caller : Nat) (events : List Event) : List Event :=
  events.filter (· ≠ .resume caller)

variable {lifetimes : Lifetimes} {s t : State} {e : Event} {events : List Event}
  {caller other : Nat} {ticket : Ticket}

theorem canResume_iff_any :
    s.CanResume caller ↔ (s.waiter? caller).any (fun w => (s.answers w.ticket).isSome) = true := by
  constructor
  · rintro ⟨ticket, a, hwaits, hanswered⟩
    simp [hwaits, hanswered]
  · intro hany
    obtain ⟨w, hwaits, hanswered⟩ := (Option.any_eq_true _ _).mp hany
    obtain ⟨a, ha⟩ := Option.isSome_iff_exists.mp hanswered
    exact ⟨w.ticket, a, waiter?_caller hwaits ▸ hwaits, ha⟩

instance (s : State) (caller : Nat) : Decidable (s.CanResume caller) :=
  decidable_of_iff _ canResume_iff_any.symm

theorem quiet_iff : s.Quiet ↔ ∀ w ∈ s.waiting, ¬ s.CanResume w.caller := by
  refine ⟨fun hquiet w _ => hquiet w.caller, fun hnone caller hcan => ?_⟩
  obtain ⟨ticket, a, hwaits, -⟩ := id hcan
  exact hnone _ (List.mem_of_find?_eq_some hwaits) hcan

instance (s : State) : Decidable s.Quiet := decidable_of_iff _ quiet_iff.symm

instance (s : State) : (e : Event) → Decidable (e.InTurn s)
  | .resume caller =>
    decidable_of_iff (s.Quiet ∨ s.CanResume caller) (by simp [Event.InTurn])
  | .check _ _ | .answer _ _ | .cancel _ | .invalidate _ | .clear | .wait _ =>
    decidable_of_iff s.Quiet (by simp [Event.InTurn])

instance Prompt.decidable (lifetimes : Lifetimes) (s : State) :
    (events : List Event) → Decidable (Prompt lifetimes s events)
  | [] => inferInstanceAs (Decidable s.Quiet)
  | e :: events =>
    have := Prompt.decidable lifetimes (step lifetimes s e).1 events
    inferInstanceAs (Decidable (_ ∧ _))

instance WaitsItOut.decidable (lifetimes : Lifetimes) (caller : Nat) (ticket : Ticket)
    (s : State) : (events : List Event) → Decidable (WaitsItOut lifetimes caller ticket s events)
  | [] => inferInstanceAs (Decidable (_ → _))
  | e :: events =>
    have := WaitsItOut.decidable lifetimes caller ticket (step lifetimes s e).1 events
    inferInstanceAs (Decidable (_ ∧ _))

theorem Event.InTurn.of_canResume (h : e.InTurn s) (hcan : s.CanResume caller) :
    ∃ x, e = .resume x ∧ s.CanResume x := h.resolve_left fun hquiet => hquiet caller hcan

theorem WaitsItOut.now (h : WaitsItOut lifetimes caller ticket s events) :
    s.answers ticket = none → s.waiter? caller = some ⟨caller, ticket⟩ := by
  cases events with
  | nil => exact h
  | cons e events => exact h.1

theorem WaitsItOut.tail (h : WaitsItOut lifetimes caller ticket s (e :: events)) :
    WaitsItOut lifetimes caller ticket (step lifetimes s e).1 events := h.2

/-! ## The guard whose caller goes on -/

/-- Two guards from the moment at which a caller is cancelled in the first.  Another caller waits
    on the same lookup until that is answered. -/
inductive Counterpart (caller other : Nat) (ticket : Ticket) (s t : State) : Prop where
  /-- The caller waits in the second guard.  Nobody need wait when the lookup is not registered
      any more. -/
  | waits (hbeside : Beside caller s t) (hwaits : t.waiter? caller = some ⟨caller, ticket⟩)
      (hstarted : ticket.number < s.started ticket.organization)
      (hother : s.waiter? other = some ⟨other, ticket⟩ ∨ s.isRegistered ticket = false)
  /-- The caller has put the answer into the slot, and the other caller will do so. -/
  | ahead {a : Answer} (hidle : t.waiter? caller = none) (hanswered : s.answers ticket = some a)
      (hother : s.waiter? other = some ⟨other, ticket⟩)
      (hbeside : Beside caller (s.settle ticket a) t)
  /-- The caller has gone and there is no difference. -/
  | done (hidle : t.waiter? caller = none) (hbeside : Beside caller s t)

theorem Beside.canResume_other {a : Answer} (h : Beside caller (s.settle ticket a) t)
    (hanswered : s.answers ticket = some a) (hother : s.waiter? other = some ⟨other, ticket⟩) :
    t.CanResume other := by
  have hne : other ≠ caller := fun heq => by
    rw [← waiter?_settle s ticket a, heq, h.idle] at hother
    cases hother
  refine ⟨ticket, a, ?_, ?_⟩
  · rw [h.waiter_eq other hne, waiter?_settle, hother]
  · rw [h.answers_eq, settle_eq]
    exact hanswered

namespace Counterpart

variable (h : Counterpart caller other ticket s t)
include h

theorem waiter_eq {x : Nat} (hx : x ≠ caller) : t.waiter? x = s.waiter? x := by
  cases h with
  | waits hbeside => exact hbeside.waiter_eq x hx
  | ahead _ _ _ hbeside => rw [hbeside.waiter_eq x hx, waiter?_settle]
  | done _ hbeside => exact hbeside.waiter_eq x hx

theorem answers_eq : t.answers = s.answers := by
  cases h with
  | waits hbeside => exact hbeside.answers_eq
  | ahead _ _ _ hbeside => rw [hbeside.answers_eq, settle_eq]
  | done _ hbeside => exact hbeside.answers_eq

theorem now_eq : t.now = s.now := by
  cases h with
  | waits hbeside => exact hbeside.now_eq
  | ahead _ _ _ hbeside => rw [hbeside.now_eq, settle_eq]
  | done _ hbeside => exact hbeside.now_eq

theorem not_canResume : ¬ s.CanResume caller := by
  have hidle : s.waiter? caller = none := by
    cases h with
    | waits hbeside => exact hbeside.idle
    | ahead _ _ _ hbeside => rw [← hbeside.idle, waiter?_settle]
    | done _ hbeside => exact hbeside.idle
  rintro ⟨ticket', a, hwaits, -⟩
  cases hwaits.symm.trans hidle

theorem canResume_iff (hcaller : ¬ t.CanResume caller) (x : Nat) :
    t.CanResume x ↔ s.CanResume x := by
  by_cases hx : x = caller
  · subst hx
    exact iff_of_false hcaller h.not_canResume
  · unfold CanResume
    rw [h.waiter_eq hx, h.answers_eq]

theorem slots_eq (hquiet : t.Quiet) : t.slots = s.slots := by
  cases h with
  | waits hbeside => exact hbeside.slots_eq
  | ahead _ hanswered hother hbeside =>
    exact absurd (hbeside.canResume_other hanswered hother) (hquiet other)
  | done _ hbeside => exact hbeside.slots_eq

theorem resume_caller :
    Counterpart caller other ticket s (resume t caller).1
      ∧ ((resume t caller).2 = []
        ∨ ∃ d, (resume t caller).2 = [.returned caller ticket.organization d (.lookedUp ticket)])
      ∧ (t.CanResume caller → (resume t caller).1.waiter? caller = none) := by
  have hgone : ∀ {a}, ((t.settle ticket a).dismiss caller).waiter? caller = none :=
    (waiter?_dismiss caller caller).trans (if_pos rfl)
  cases h with
  | waits hbeside hwaits hstarted hother =>
    cases hanswer : t.answers ticket with
    | none =>
      rw [resume_of_open hwaits hanswer]
      refine ⟨.waits hbeside hwaits hstarted hother, .inl rfl, ?_⟩
      rintro ⟨ticket', a, hwaits', hanswered⟩
      cases hwaits.symm.trans hwaits'
      cases hanswer.symm.trans hanswered
    | some a =>
      rw [resume_of_answered hwaits hanswer]
      refine ⟨?_, .inr ⟨_, rfl⟩, fun _ => hgone⟩
      have hsettled := (hbeside.settle ticket a).leave
      rcases hother with hother | hoff
      · exact .ahead hgone (hbeside.answers_eq ▸ hanswer) hother hsettled
      · rw [settle_of_not_registered a hoff] at hsettled
        exact .done hgone hsettled
  | ahead hidle hanswered hother hbeside =>
    rw [resume_of_idle hidle]
    exact ⟨.ahead hidle hanswered hother hbeside, .inl rfl, fun _ => hidle⟩
  | done hidle hbeside =>
    rw [resume_of_idle hidle]
    exact ⟨.done hidle hbeside, .inl rfl, fun _ => hidle⟩

end Counterpart

theorem Counterpart.step_waits (hbeside : Beside caller s t)
    (hwaits : t.waiter? caller = some ⟨caller, ticket⟩)
    (hstarted : ticket.number < s.started ticket.organization)
    (hother : s.waiter? other = some ⟨other, ticket⟩ ∨ s.isRegistered ticket = false)
    (he : e.caller? ≠ some caller)
    (hprompt : e.InTurn t)
    (hwaitsOn : (step lifetimes s e).1.answers ticket = none →
      (step lifetimes s e).1.waiter? other = some ⟨other, ticket⟩) :
    Counterpart caller other ticket (step lifetimes s e).1 (step lifetimes t e).1 := by
  have htransition : Transition lifetimes s e _ _ := step_transition e
  obtain ⟨hbeside', -, hwaiter⟩ := hbeside.step lifetimes he
  have hstarted' := Nat.lt_of_lt_of_le hstarted (htransition.started_le ticket.organization)
  refine .waits hbeside' (hwaiter.trans hwaits) hstarted' ?_
  rcases hother with hother | hoff
  · rcases htransition.waits_or_leaves hother with hstill | hcancel | ⟨hresume, a, hanswered⟩
    · exact .inl hstill
    · subst hcancel
      cases hanswer : s.answers ticket with
      | none => exact .inl (hwaitsOn hanswer)
      | some a =>
        obtain ⟨x, hx, -⟩ := hprompt.of_canResume
          ⟨ticket, a, hwaits, hbeside.answers_eq ▸ hanswer⟩
        cases hx
    · subst hresume
      right
      simp only [step, resume_of_answered hother hanswered, ← settle_dismiss]
      exact isRegistered_settle _ ticket a
  · exact .inr (htransition.isRegistered_eq_false hstarted hoff)

/-- While the caller is ahead the others go on, one after the other. -/
theorem Counterpart.step_ahead {a : Answer} {x : Nat} (hidle : t.waiter? caller = none)
    (hanswered : s.answers ticket = some a) (hother : s.waiter? other = some ⟨other, ticket⟩)
    (hbeside : Beside caller (s.settle ticket a) t) (hx : t.CanResume x) :
    Counterpart caller other ticket (resume s x).1 (resume t x).1
      ∧ (resume t x).2 = (resume s x).2 := by
  obtain ⟨ticket', b, hwaits', hanswered'⟩ := hx
  have hne : x ≠ caller := fun heq => by cases (heq ▸ hwaits').symm.trans hidle
  have hidle' : ((t.settle ticket' b).dismiss x).waiter? caller = none := by
    rw [waiter?_dismiss, if_neg (Ne.symm hne), waiter?_settle, hidle]
  have hwaits : s.waiter? x = some ⟨x, ticket'⟩ := by
    rw [← hwaits', hbeside.waiter_eq x hne, waiter?_settle]
  have hanswer : s.answers ticket' = some b := by
    rw [← hanswered', hbeside.answers_eq, settle_eq]
  rw [resume_of_answered hwaits hanswer, resume_of_answered hwaits' hanswered']
  refine ⟨?_, rfl⟩
  have hboth := (hbeside.settle ticket' b).dismiss x
  by_cases hticket : ticket' = ticket
  · subst hticket
    cases hanswered.symm.trans hanswer
    rw [settle_of_not_registered a (isRegistered_settle s ticket' a)] at hboth
    exact .done hidle' hboth
  · rw [settle_comm s (Ne.symm hticket), ← settle_dismiss] at hboth
    refine .ahead hidle' ?_ ?_ hboth
    · rw [settle_eq]
      exact hanswered
    · have hxother : other ≠ x := fun heq => by
        subst heq
        cases hother.symm.trans hwaits
        exact hticket rfl
      rw [waiter?_dismiss, if_neg hxother, waiter?_settle, hother]

theorem Counterpart.step (h : Counterpart caller other ticket s t)
    (he : e.caller? ≠ some caller)
    (hprompt : e.InTurn t)
    (hwaitsOn : (step lifetimes s e).1.answers ticket = none →
      (step lifetimes s e).1.waiter? other = some ⟨other, ticket⟩) :
    Counterpart caller other ticket (step lifetimes s e).1 (step lifetimes t e).1
      ∧ (Guard.step lifetimes t e).2 = (Guard.step lifetimes s e).2
      ∧ heard t e = heard s e := by
  cases h with
  | waits hbeside hwaits hstarted hother =>
    have hcounterpart := step_waits hbeside hwaits hstarted hother he hprompt hwaitsOn
    exact ⟨hcounterpart, (hbeside.step lifetimes he).2.1, hbeside.heard_eq⟩
  | @ahead a hidle hanswered hother hbeside =>
    obtain ⟨x, rfl, hx⟩ := hprompt.of_canResume (hbeside.canResume_other hanswered hother)
    obtain ⟨hcounterpart, hhappens⟩ := step_ahead hidle hanswered hother hbeside hx
    exact ⟨hcounterpart, hhappens, rfl⟩
  | done hidle hbeside =>
    obtain ⟨hbeside', hhappens, hwaiter⟩ := hbeside.step lifetimes he
    exact ⟨.done (hwaiter.trans hidle) hbeside', hhappens, hbeside.heard_eq⟩

/-! ## The rest of the run -/

theorem without_cons_self (caller : Nat) (events : List Event) :
    without caller (.resume caller :: events) = without caller events :=
  List.filter_cons_of_neg (by simp)

theorem without_cons_of_ne (he : e ≠ .resume caller) (events : List Event) :
    without caller (e :: events) = e :: without caller events :=
  List.filter_cons_of_pos (by simpa using he)

theorem without_eq_self (hgone : ∀ e ∈ events, e.caller? ≠ some caller) :
    without caller events = events := by
  refine List.filter_eq_self.mpr fun e he => decide_eq_true fun heq => ?_
  exact hgone e he (congrArg Event.caller? heq)

theorem Transition.caller_eq {s' : State} {hs : List Happening}
    (h : Transition lifetimes s e s' hs) : ∀ x ∈ hs, e.caller? = some x.caller := by
  cases h with
  | hit => exact List.forall_mem_singleton.mpr rfl
  | join => exact List.forall_mem_singleton.mpr rfl
  | start => exact List.forall_mem_singleton.mpr rfl
  | resume => exact List.forall_mem_singleton.mpr rfl
  | _ => nofun

theorem Transition.idle_of_ne {s' : State} {hs : List Happening}
    (h : Transition lifetimes s e s' hs) (he : e.caller? ≠ some caller)
    (hidle : s.waiter? caller = none) : s'.waiter? caller = none := by
  rcases h.waiterChange caller with hsame | ⟨ticket, hbegins, -⟩ | hgone
  · rw [hsame, hidle]
  · rcases hbegins with hasked | hjoined
    · exact absurd (h.caller_eq _ hasked) he
    · exact absurd (h.caller_eq _ hjoined) he
  · exact hgone

theorem filter_happenings_of_ne {hs : List Happening} (time : Nat)
    (h : ∀ x ∈ hs, e.caller? = some x.caller) (he : e.caller? ≠ some caller) :
    (hs.map (time, ·)).filter (·.2.caller ≠ caller) = hs.map (time, ·) := by
  refine List.filter_eq_self.mpr fun x hx => ?_
  obtain ⟨y, hy, rfl⟩ := List.mem_map.mp hx
  exact decide_eq_true fun heq => he ((h y hy).trans (congrArg some heq))

namespace Counterpart

/-- After every part of the run the guards are counterparts. -/
theorem run (h : Counterpart caller other ticket s t) (first second : List Event)
    (hprompt : Prompt lifetimes t (first ++ second))
    (hgone : ∀ e ∈ without caller (first ++ second), e.caller? ≠ some caller)
    (hwaits : WaitsItOut lifetimes other ticket s (without caller (first ++ second))) :
    Counterpart caller other ticket (run lifetimes s (without caller first))
      (run lifetimes t first) := by
  induction first generalizing s t with
  | nil => exact h
  | cons e first ih =>
    rw [List.cons_append] at hprompt hgone hwaits
    by_cases he : e = .resume caller
    · subst he
      rw [without_cons_self] at hgone hwaits ⊢
      exact ih h.resume_caller.1 hprompt.2 hgone hwaits
    · rw [without_cons_of_ne he] at hgone hwaits ⊢
      obtain ⟨he', hgone⟩ := List.forall_mem_cons.mp hgone
      exact ih (h.step he' hprompt.1 hwaits.tail.now).1 hprompt.2 hgone hwaits.tail

theorem trace_eq (h : Counterpart caller other ticket s t) (events : List Event)
    (hprompt : Prompt lifetimes t events)
    (hgone : ∀ e ∈ without caller events, e.caller? ≠ some caller)
    (hwaits : WaitsItOut lifetimes other ticket s (without caller events)) :
    (trace lifetimes t events).filter (·.2.caller ≠ caller)
        = trace lifetimes s (without caller events)
      ∧ exchanges lifetimes t events = exchanges lifetimes s (without caller events) := by
  -- by induction on the events: those of the caller have no counterpart, the others are the same
  induction events generalizing s t with
  | nil => exact ⟨rfl, rfl⟩
  | cons e events ih =>
    have htransition : Transition lifetimes t e _ _ := step_transition e
    by_cases he : e = .resume caller
    · subst he
      rw [without_cons_self] at hgone hwaits ⊢
      obtain ⟨hcounterpart, hhappens, -⟩ := h.resume_caller
      obtain ⟨htrace, hexchanges⟩ := ih hcounterpart hprompt.2 hgone hwaits
      rw [trace, exchanges, List.filter_append, ← htrace, ← hexchanges]
      rcases hhappens with hnone | ⟨d, hreturns⟩
      · simp [Guard.step, hnone, heard]
      · simp [Guard.step, hreturns, heard, Happening.exchange?, Happening.caller]
    · rw [without_cons_of_ne he] at hgone hwaits ⊢
      obtain ⟨he', hgone⟩ := List.forall_mem_cons.mp hgone
      obtain ⟨hcounterpart, hhappens, hheard⟩ := h.step he' hprompt.1 hwaits.tail.now
      obtain ⟨htrace, hexchanges⟩ := ih hcounterpart hprompt.2 hgone hwaits.tail
      rw [trace, exchanges, trace, exchanges, List.filter_append, ← htrace, ← hexchanges,
        filter_happenings_of_ne t.now htransition.caller_eq he', hhappens, hheard, h.now_eq]
      exact ⟨rfl, rfl⟩

theorem prompt_now (h : Counterpart caller other ticket s t) (hcaller : ¬ t.CanResume caller)
    (hprompt : e.InTurn s) : e.InTurn t := by
  unfold Event.InTurn State.Quiet at hprompt ⊢
  simpa only [h.canResume_iff hcaller] using hprompt

theorem quiet (h : Counterpart caller other ticket s t) (hcaller : ¬ t.CanResume caller)
    (hquiet : s.Quiet) : t.Quiet :=
  fun x hx => hquiet x ((h.canResume_iff hcaller x).mp hx)

/-- When the caller has gone the events of the one run are a run of the other. -/
theorem prompt_of_idle (h : Counterpart caller other ticket s t)
    (hidle : t.waiter? caller = none) (hprompt : Prompt lifetimes s events)
    (hgone : ∀ e ∈ events, e.caller? ≠ some caller)
    (hwaits : WaitsItOut lifetimes other ticket s events) : Prompt lifetimes t events := by
  have hcaller : ¬ t.CanResume caller := by
    rintro ⟨ticket', a, hwaits, -⟩
    cases hwaits.symm.trans hidle
  induction events generalizing s t with
  | nil => exact h.quiet hcaller hprompt
  | cons e events ih =>
    obtain ⟨he, hgone⟩ := List.forall_mem_cons.mp hgone
    have hnow := h.prompt_now hcaller hprompt.1
    have hcounterpart := (h.step he hnow hwaits.tail.now).1
    have htransition : Transition lifetimes t e _ _ := step_transition e
    have hidle' := htransition.idle_of_ne he hidle
    refine ⟨hnow, ih hcounterpart hidle' hprompt.2 hgone hwaits.tail ?_⟩
    rintro ⟨ticket', a, hwaits, -⟩
    cases hwaits.symm.trans hidle'

theorem prompt_resume_caller (h : Counterpart caller other ticket s t)
    (hcaller : t.CanResume caller) (hprompt : Prompt lifetimes s events)
    (hgone : ∀ e ∈ events, e.caller? ≠ some caller)
    (hwaits : WaitsItOut lifetimes other ticket s events) :
    Prompt lifetimes t (.resume caller :: events) := by
  obtain ⟨hcounterpart, -, hidle⟩ := h.resume_caller
  refine ⟨.inr ⟨caller, rfl, hcaller⟩, ?_⟩
  exact hcounterpart.prompt_of_idle (hidle hcaller) hprompt hgone hwaits

/-- The caller that is not cancelled can go on with the others: as soon as its lookup is
    answered. -/
theorem exists_prompt (h : Counterpart caller other ticket s t)
    (hprompt : Prompt lifetimes s events) (hgone : ∀ e ∈ events, e.caller? ≠ some caller)
    (hwaits : WaitsItOut lifetimes other ticket s events) :
    ∃ events', Prompt lifetimes t events' ∧ without caller events' = events := by
  induction events generalizing s t with
  | nil =>
    by_cases hcaller : t.CanResume caller
    · exact ⟨_, h.prompt_resume_caller hcaller hprompt hgone hwaits, without_cons_self _ _⟩
    · exact ⟨[], h.quiet hcaller hprompt, rfl⟩
  | cons e events ih =>
    by_cases hcaller : t.CanResume caller
    · refine ⟨_, h.prompt_resume_caller hcaller hprompt hgone hwaits, ?_⟩
      rw [without_cons_self, without_eq_self hgone]
    · obtain ⟨he, hgone⟩ := List.forall_mem_cons.mp hgone
      have hnow := h.prompt_now hcaller hprompt.1
      have hcounterpart := (h.step he hnow hwaits.tail.now).1
      obtain ⟨events', hprompt', hwithout⟩ := ih hcounterpart hprompt.2 hgone hwaits.tail
      refine ⟨e :: events', ⟨hnow, hprompt'⟩, ?_⟩
      rw [without_cons_of_ne fun heq => he (congrArg Event.caller? heq), hwithout]

end Counterpart

/-! ## The whole run -/

theorem Prompt.drop (before : List Event) (h : Prompt lifetimes s (before ++ events)) :
    Prompt lifetimes (run lifetimes s before) events := by
  induction before generalizing s with
  | nil => exact h
  | cons e before ih => exact ih h.2

theorem Prompt.replace (before : List Event) {events' : List Event}
    (h : Prompt lifetimes s (before ++ events))
    (h' : Prompt lifetimes (run lifetimes s before) events') :
    Prompt lifetimes s (before ++ events') := by
  induction before generalizing s with
  | nil => exact h'
  | cons e before ih => exact ⟨h.1, ih h.2 h'⟩

theorem started_of_waiter (before : List Event)
    (h : (run lifetimes {} before).waiter? caller = some ⟨caller, ticket⟩) :
    ticket.number < (run lifetimes {} before).started ticket.organization := by
  have hstate := Run.stateAt_eq_run (r := ⟨lifetimes, before⟩) before.length
  rw [List.take_length] at hstate
  rw [← hstate] at h ⊢
  obtain ⟨i, hi, -, hasked | hjoined, -⟩ := Run.waits_since (r := ⟨lifetimes, before⟩) h
  · exact Run.Starts.number_lt ⟨caller, hasked⟩ hi
  · obtain ⟨asked, -, -, hpending⟩ := (Run.transition_at i).of_joined hjoined
    obtain ⟨-, k, hk, hstarts, -⟩ := Run.pending_since hpending
    exact hstarts.number_lt (Nat.lt_trans hk hi)

theorem Counterpart.of_cancel
    (hcaller : s.waiter? caller = some ⟨caller, ticket⟩)
    (hstarted : ticket.number < s.started ticket.organization)
    (hprompt : Prompt lifetimes s (.cancel caller :: events))
    (hother : (s.dismiss caller).answers ticket = none →
      (s.dismiss caller).waiter? other = some ⟨other, ticket⟩) :
    Counterpart caller other ticket (s.dismiss caller) s := by
  have hopen : s.answers ticket = none := by
    cases hanswer : s.answers ticket with
    | none => rfl
    | some a =>
      obtain ⟨x, hx, -⟩ := hprompt.1.of_canResume ⟨ticket, a, hcaller, hanswer⟩
      cases hx
  refine .waits ⟨⟨s.waiting, rfl⟩, ?_, fun x hx => ?_⟩ hcaller hstarted (.inl (hother hopen))
  · rw [waiter?_dismiss, if_pos rfl]
  · rw [waiter?_dismiss, if_neg hx]

/-- **One caller less.**  In a run whose callers go on at once a caller is cancelled while another
    one waits on the same lookup, and goes on to wait until that is answered.  The caller need not
    have been cancelled: it could have gone on with the others.  And wherever it goes on, the rest
    of the run is the same for everybody else: the same happens to them at the same times, the
    same is said between the guard and the source, and whenever nobody can go on the guard
    stores the same. -/
theorem cancelled_alone (lifetimes : Lifetimes) (before after : List Event) (caller other : Nat)
    (ticket : Ticket)
    (hcaller : (run lifetimes {} before).waiter? caller = some ⟨caller, ticket⟩)
    (hother : WaitsItOut lifetimes other ticket
      (run lifetimes {} (before ++ [.cancel caller])) after)
    (hprompt : Prompt lifetimes {} (before ++ .cancel caller :: after))
    (hgone : ∀ e ∈ after, e.caller? ≠ some caller) :
    (∃ after', without caller after' = after ∧ Prompt lifetimes {} (before ++ after'))
      ∧ ∀ after', without caller after' = after → Prompt lifetimes {} (before ++ after') →
        (trace lifetimes (run lifetimes {} before) after').filter (·.2.caller ≠ caller)
            = trace lifetimes (run lifetimes {} (before ++ [.cancel caller])) after
          ∧ exchanges lifetimes (run lifetimes {} before) after'
            = exchanges lifetimes (run lifetimes {} (before ++ [.cancel caller])) after
          ∧ ∀ first second, after' = first ++ second →
            (run lifetimes {} (before ++ first)).Quiet →
            (run lifetimes {} (before ++ first)).now
                = (run lifetimes {} (before ++ .cancel caller :: without caller first)).now
              ∧ (run lifetimes {} (before ++ first)).slots
                = (run lifetimes {} (before ++ .cancel caller :: without caller first)).slots := by
  have hcancel : ∀ events, run lifetimes {} (before ++ .cancel caller :: events)
      = run lifetimes ((run lifetimes {} before).dismiss caller) events :=
    fun events => run_append _ _ _
  have hdrop := hprompt.drop before
  rw [hcancel, run_nil] at hother ⊢
  simp only [hcancel, run_append]
  -- from here on the two runs are compared step by step
  have hcounterpart := Counterpart.of_cancel hcaller (started_of_waiter before hcaller) hdrop
    hother.now
  refine ⟨?_, fun after' hwithout hprompt' => ?_⟩
  · obtain ⟨after', hafter', hwithout⟩ := hcounterpart.exists_prompt hdrop.2 hgone hother
    exact ⟨after', hwithout, hprompt.replace before hafter'⟩
  · subst hwithout
    have hdrop' := hprompt'.drop before
    obtain ⟨htrace, hexchanges⟩ := hcounterpart.trace_eq after' hdrop' hgone hother
    refine ⟨htrace, hexchanges, fun first second hsplit hquiet => ?_⟩
    subst hsplit
    have hlater := hcounterpart.run first second hdrop' hgone hother
    exact ⟨hlater.now_eq, hlater.slots_eq hquiet⟩

/-- Two checks of the studio begin together. -/
def begunTogether : List Event := [.check 0 "studio", .check 1 "studio"]

/-- The lookup fails at last, the second check goes on, and the studio is asked about again. -/
def failsForOne : List Event :=
  [ .check 2 "gallery", .wait 30, .answer ⟨"studio", 0⟩ none, .resume 1, .check 3 "studio" ]

/-- The same with the first check going on before the second one. -/
def failsForBoth : List Event :=
  [ .check 2 "gallery", .wait 30, .answer ⟨"studio", 0⟩ none, .resume 0, .resume 1,
    .check 3 "studio" ]

/-- The check that made the source be asked is cancelled before the lookup fails.  It is another
    one then that takes the lookup off, and the studio is looked up once more, just as well. -/
theorem cancelled_alone_fails :
    Prompt {} {} (begunTogether ++ .cancel 0 :: failsForOne)
      ∧ Prompt {} {} (begunTogether ++ failsForBoth)
      ∧ (trace {} (run {} {} begunTogether) failsForBoth).filter (·.2.caller ≠ 0)
        = [ (0, .asked 2 ⟨"gallery", 0⟩),
            (30, .returned 1 "studio" .allowed (.lookedUp ⟨"studio", 0⟩)),
            (30, .asked 3 ⟨"studio", 1⟩) ]
      ∧ (run {} {} (begunTogether ++ failsForBoth)).slots
        = (run {} {} (begunTogether ++ .cancel 0 :: failsForOne)).slots := by
  have hprompt : Prompt {} {} (begunTogether ++ .cancel 0 :: failsForOne) := by decide
  have hprompt' : Prompt {} {} (begunTogether ++ failsForBoth) := by decide
  obtain ⟨-, hsame⟩ := cancelled_alone {} begunTogether failsForOne 0 1 ⟨"studio", 0⟩ (by decide)
    (by decide) hprompt (by decide)
  obtain ⟨htrace, -, hstored⟩ := hsame failsForBoth rfl hprompt'
  obtain ⟨-, hslots⟩ := hstored failsForBoth [] rfl (by decide)
  refine ⟨hprompt, hprompt', ?_, hslots⟩
  rw [htrace]
  decide

end BlockMail.Guard
