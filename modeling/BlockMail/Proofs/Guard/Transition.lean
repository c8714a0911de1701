import BlockMail.Guard.State

/-! # Transitions of the guard

`Transition` lists everything that one event can do: the state after it and what
it makes happen, with the conditions under which it does so.  `step_transition`
says that the list is complete, and every invariant of the guard is proved by
cases on it, so that no later proof looks into `step`.

The lemmas on `sweep` and `waiter?` say what these conditions mean.
-/

namespace BlockMail.Guard

open State

variable {lifetimes : Lifetimes} {s : State}

/-! ## Sweeping -/

theorem sweep_eq_ready_iff {organization : String} {d : Decision} {storedAt : Nat} :
    sweep lifetimes s organization = some (.ready d storedAt)
      ↔ s.slots organization = some (.ready d storedAt)
        ∧ s.now < storedAt + lifetimes.of d := by
  simp [sweep, isFresh, Option.filter_eq_some_iff]

theorem sweep_eq_pending_iff {organization : String} {ticket : Ticket} :
    sweep lifetimes s organization = some (.pending ticket)
      ↔ s.slots organization = some (.pending ticket) := by
  simp [sweep, Option.filter_eq_some_iff]

theorem slots_of_sweep {organization : String} {slot : Slot}
    (h : sweep lifetimes s organization = some slot) : s.slots organization = some slot := by
  cases slot with
  | ready d storedAt => exact (sweep_eq_ready_iff.1 h).1
  | pending ticket => exact sweep_eq_pending_iff.1 h

theorem sweep_eq_none_iff {organization : String} :
    sweep lifetimes s organization = none
      ↔ s.slots organization = none
        ∨ ∃ d storedAt, s.slots organization = some (.ready d storedAt)
          ∧ storedAt + lifetimes.of d ≤ s.now := by
  cases h : s.slots organization with
  | none => simp [sweep, h]
  | some slot =>
    cases slot with
    | ready d storedAt =>
      simp only [sweep, h, isFresh, Option.filter_eq_none_iff]
      constructor
      · intro hstale
        exact .inr ⟨d, storedAt, rfl, by simpa using hstale⟩
      · rintro (hnone | ⟨d', storedAt', heq, hle⟩)
        · cases hnone
        · cases heq
          simpa using hle
    | pending ticket => simp [sweep, h]

/-! ## Waiting callers -/

/-- The state after `caller` has begun to wait on a lookup. -/
def joinOn (s : State) (caller : Nat) (ticket : Ticket) : State :=
  { s with waiting := s.waiting ++ [⟨caller, ticket⟩] }

theorem waiter?_caller {caller : Nat} {w : Waiter} (h : s.waiter? caller = some w) :
    w = ⟨caller, w.ticket⟩ := by
  unfold waiter? at h
  have hcaller := List.find?_some h
  rw [beq_iff_eq] at hcaller
  rw [← hcaller]

theorem waiter?_joinOn {caller : Nat} {ticket : Ticket} (hidle : s.waiter? caller = none)
    (other : Nat) :
    (joinOn s caller ticket).waiter? other
      = if other = caller then some ⟨caller, ticket⟩ else s.waiter? other := by
  unfold waiter? at hidle ⊢
  simp only [joinOn, List.find?_append]
  split
  · rename_i h
    rw [h, hidle]
    simp
  · rename_i h
    have hne : (caller == other) = false := beq_eq_false_iff_ne.2 (Ne.symm h)
    simp [hne]

theorem waiter?_dismiss (caller other : Nat) :
    (s.dismiss caller).waiter? other = if other = caller then none else s.waiter? other := by
  simp only [waiter?, dismiss, List.find?_filter]
  split
  · rename_i h
    subst h
    simp [List.find?_eq_none]
  · rename_i h
    congr 1
    funext w
    by_cases hw : w.caller = other <;> simp [hw, h]

/-! ## All transitions -/

/-- What one event does to the guard, and what it makes happen. -/
inductive Transition (lifetimes : Lifetimes) (s : State) :
    Event → State → List Happening → Prop where
  /-- A caller asks that still waits. -/
  | busy {caller organization w} (hbusy : s.waiter? caller = some w) :
      Transition lifetimes s (.check caller organization) s []
  /-- A stored decision is the answer. -/
  | hit {caller organization d storedAt} (hidle : s.waiter? caller = none)
      (hready : s.slots organization = some (.ready d storedAt))
      (hfresh : s.now < storedAt + lifetimes.of d) :
      Transition lifetimes s (.check caller organization) s
        [.returned caller organization d .stored]
  /-- A caller waits on the lookup that is registered. -/
  | join {caller organization ticket} (hidle : s.waiter? caller = none)
      (hpending : s.slots organization = some (.pending ticket)) :
      Transition lifetimes s (.check caller organization) (joinOn s caller ticket)
        [.joined caller ticket]
  /-- A new lookup is registered. -/
  | start {caller organization} (hidle : s.waiter? caller = none)
      (hstale : sweep lifetimes s organization = none) :
      Transition lifetimes s (.check caller organization) (s.lookUp lifetimes caller organization)
        [.asked caller (s.nextTicket organization)]
  /-- The source answers a lookup. -/
  | answer {ticket a} (hstarted : ticket.number < s.started ticket.organization)
      (hopen : s.answers ticket = none) :
      Transition lifetimes s (.answer ticket a)
        { s with answers := update s.answers ticket (some a) } []
  /-- An answer to a lookup that was never started, or a second one, is not heard. -/
  | ignore {ticket a}
      (hclosed : ¬ (ticket.number < s.started ticket.organization ∧ s.answers ticket = none)) :
      Transition lifetimes s (.answer ticket a) s []
  /-- A caller has nothing to go on with. -/
  | stay {caller} (hstay : ∀ ticket, s.waiter? caller = some ⟨caller, ticket⟩ →
        s.answers ticket = none) :
      Transition lifetimes s (.resume caller) s []
  /-- A caller returns the answer of its lookup. -/
  | resume {caller ticket a} (hwaits : s.waiter? caller = some ⟨caller, ticket⟩)
      (hanswered : s.answers ticket = some a) :
      Transition lifetimes s (.resume caller) ((s.settle ticket a).dismiss caller)
        [.returned caller ticket.organization (a.getD .allowed) (.lookedUp ticket)]
  | cancel {caller} : Transition lifetimes s (.cancel caller) (s.dismiss caller) []
  | invalidate {organization} :
      Transition lifetimes s (.invalidate organization)
        { s with slots := update s.slots organization none } []
  | clear : Transition lifetimes s .clear { s with slots := fun _ => none } []
  | wait {duration} :
      Transition lifetimes s (.wait duration) { s with now := s.now + duration } []

theorem check_of_pending {caller : Nat} {organization : String} {ticket : Ticket}
    (hidle : s.waiter? caller = none)
    (hpending : s.slots organization = some (.pending ticket)) :
    check lifetimes s caller organization = (joinOn s caller ticket, [.joined caller ticket]) := by
  simp [check, hidle, sweep_eq_pending_iff.2 hpending, joinOn]

theorem check_transition (caller : Nat) (organization : String) :
    Transition lifetimes s (.check caller organization)
      (check lifetimes s caller organization).1 (check lifetimes s caller organization).2 := by
  cases hwaiter : s.waiter? caller with
  | some w => simpa [check, hwaiter] using Transition.busy hwaiter
  | none =>
    cases hsweep : sweep lifetimes s organization with
    | none => simpa [check, hwaiter, hsweep] using Transition.start hwaiter hsweep
    | some slot =>
      cases slot with
      | ready d storedAt =>
        obtain ⟨hready, hfresh⟩ := sweep_eq_ready_iff.1 hsweep
        simpa [check, hwaiter, hsweep] using Transition.hit hwaiter hready hfresh
      | pending ticket =>
        have hpending := sweep_eq_pending_iff.1 hsweep
        rw [check_of_pending hwaiter hpending]
        exact .join hwaiter hpending

theorem resume_transition (caller : Nat) :
    Transition lifetimes s (.resume caller) (resume s caller).1 (resume s caller).2 := by
  cases hwaiter : s.waiter? caller with
  | none => simpa [resume, hwaiter] using Transition.stay (by simp [hwaiter])
  | some w =>
    have hw := waiter?_caller hwaiter
    cases hanswer : s.answers w.ticket with
    | none =>
      have hstay : ∀ ticket, s.waiter? caller = some ⟨caller, ticket⟩ →
          s.answers ticket = none := by
        intro ticket hticket
        rw [hwaiter, Option.some.injEq] at hticket
        rw [← hanswer, hticket]
      simpa [resume, hwaiter, hanswer] using Transition.stay hstay
    | some a =>
      rw [hw] at hwaiter
      simpa [resume, hwaiter, hanswer] using Transition.resume hwaiter hanswer

/-- Every step of the guard is one of the transitions. -/
theorem step_transition (e : Event) :
    Transition lifetimes s e (step lifetimes s e).1 (step lifetimes s e).2 := by
  cases e with
  | check caller organization => exact check_transition caller organization
  | answer ticket a =>
    by_cases h : ticket.number < s.started ticket.organization ∧ s.answers ticket = none
    · simpa [step, answer, h] using Transition.answer h.1 h.2
    · simpa only [step, answer, h, if_false] using Transition.ignore h
  | resume caller => exact resume_transition caller
  | cancel caller => exact .cancel
  | invalidate organization => exact .invalidate
  | clear => exact .clear
  | wait duration => exact .wait

/-! ## What a transition leaves and what it changes -/

namespace Transition

variable {s' : State} {e : Event} {hs : List Happening}

theorem now_le (h : Transition lifetimes s e s' hs) : s.now ≤ s'.now := by
  cases h with
  | resume => simp [settle, dismiss, apply_ite State.now]
  | _ => simp [joinOn, lookUp, dismiss]

/-- What a transition can make of the slot of an organization. -/
inductive SlotChange (lifetimes : Lifetimes) (s s' : State) (e : Event) (hs : List Happening)
    (organization : String) : Prop where
  | kept (hkept : s'.slots organization = s.slots organization)
  | swept {d storedAt} (hready : s.slots organization = some (.ready d storedAt))
      (hexpired : storedAt + lifetimes.of d ≤ s.now) (hgone : s'.slots organization = none)
  | started {caller} (hasked : .asked caller (s.nextTicket organization) ∈ hs)
      (hpending : s'.slots organization = some (.pending (s.nextTicket organization)))
  | settled {caller ticket a} (hresume : e = .resume caller)
      (hwaits : s.waiter? caller = some ⟨caller, ticket⟩) (hanswered : s.answers ticket = some a)
      (horganization : ticket.organization = organization)
      (hpending : s.slots organization = some (.pending ticket))
      (hsettled : s'.slots organization = s.settledSlot a)
  | forgotten (hforget : e = .invalidate organization ∨ e = .clear)
      (hgone : s'.slots organization = none)

theorem slotChange_sweep {organization : String}
    (hslot : s'.slots organization = sweep lifetimes s organization) :
    SlotChange lifetimes s s' e hs organization := by
  cases hsweep : sweep lifetimes s organization with
  | some slot => exact .kept (by rw [hslot, hsweep, slots_of_sweep hsweep])
  | none =>
    rw [hsweep] at hslot
    rcases sweep_eq_none_iff.1 hsweep with hnone | ⟨d, storedAt, hready, hexpired⟩
    · exact .kept (by rw [hslot, hnone])
    · exact .swept hready hexpired hslot

theorem slots_settle (ticket : Ticket) (a : Answer) :
    (s.settle ticket a).slots
      = if s.isRegistered ticket then update s.slots ticket.organization (s.settledSlot a)
        else s.slots := by
  unfold settle
  split <;> rfl

/-- Only five things can become of a slot. -/
theorem slotChange (h : Transition lifetimes s e s' hs) (organization : String) :
    SlotChange lifetimes s s' e hs organization := by
  cases h with
  | @start caller asked hidle hstale =>
    by_cases heq : organization = asked
    · subst heq
      exact .started (List.mem_singleton_self _) (update_self _ _ _)
    · exact slotChange_sweep (update_of_ne _ _ heq)
  | @resume caller ticket a hwaits hanswered =>
    -- The ownership test: only the registered lookup may touch its slot.
    have hslots : ((s.settle ticket a).dismiss caller).slots = _ := slots_settle ticket a
    by_cases hregistered : s.isRegistered ticket = true
    · rw [if_pos hregistered] at hslots
      by_cases heq : organization = ticket.organization
      · subst heq
        rw [isRegistered, beq_iff_eq] at hregistered
        exact .settled rfl hwaits hanswered rfl hregistered (by rw [hslots, update_self])
      · exact .kept (by rw [hslots, update_of_ne _ _ heq])
    · rw [if_neg hregistered] at hslots
      exact .kept (by rw [hslots])
  | @invalidate forgotten =>
    by_cases heq : organization = forgotten
    · subst heq
      exact .forgotten (.inl rfl) (update_self _ _ _)
    · exact .kept (update_of_ne _ _ heq)
  | clear => exact .forgotten (.inr rfl) rfl
  | _ => exact .kept rfl

theorem slot_of_resume {caller : Nat} {ticket : Ticket} {a : Answer}
    (h : Transition lifetimes s (.resume caller) s' hs)
    (hwaits : s.waiter? caller = some ⟨caller, ticket⟩) (hanswered : s.answers ticket = some a)
    (hpending : s.slots ticket.organization = some (.pending ticket)) :
    s'.slots ticket.organization = s.settledSlot a := by
  cases h with
  | stay hstay => cases (hstay ticket hwaits).symm.trans hanswered
  | @resume _ ticket' a' hwaits' hanswered' =>
    cases hwaits'.symm.trans hwaits
    cases hanswered'.symm.trans hanswered
    have hregistered : s.isRegistered ticket = true := by
      rwa [isRegistered, beq_iff_eq]
    have hslots := (slots_settle ticket a).trans (if_pos hregistered)
    exact (congrFun hslots _).trans (update_self _ _ _)

theorem slots_of_resume {caller : Nat} {ticket : Ticket}
    (h : Transition lifetimes s (.resume caller) s' hs)
    (hwaits : s.waiter? caller = some ⟨caller, ticket⟩)
    (hdisowned : s.slots ticket.organization ≠ some (.pending ticket)) : s'.slots = s.slots := by
  cases h with
  | stay => rfl
  | @resume _ ticket' a hwaits' hanswered =>
    cases hwaits'.symm.trans hwaits
    have hregistered : ¬ s.isRegistered ticket = true := by
      rwa [isRegistered, beq_iff_eq]
    exact (slots_settle ticket a).trans (if_neg hregistered)

/-- What becomes of a caller: nothing new, it begins to wait, or it goes. -/
theorem waiterChange (h : Transition lifetimes s e s' hs) (caller : Nat) :
    s'.waiter? caller = s.waiter? caller
      ∨ (∃ ticket, (.asked caller ticket ∈ hs ∨ .joined caller ticket ∈ hs)
          ∧ s'.waiter? caller = some ⟨caller, ticket⟩)
      ∨ s'.waiter? caller = none := by
  have hjoin : ∀ other ticket, s.waiter? other = none →
      (joinOn s other ticket).waiter? caller = s.waiter? caller
        ∨ caller = other ∧ (joinOn s other ticket).waiter? caller = some ⟨caller, ticket⟩ := by
    intro other ticket hidle
    rw [waiter?_joinOn hidle]
    split
    · rename_i heq
      exact .inr ⟨heq, by rw [heq]⟩
    · exact .inl rfl
  have hdismiss : ∀ other, (s.dismiss other).waiter? caller = s.waiter? caller
      ∨ (s.dismiss other).waiter? caller = none := by
    intro other
    rw [waiter?_dismiss]
    split
    · exact .inr rfl
    · exact .inl rfl
  cases h with
  | @join other organization ticket hidle hpending =>
    rcases hjoin other ticket hidle with hsame | ⟨heq, hnew⟩
    · exact .inl hsame
    · subst heq
      exact .inr (.inl ⟨ticket, .inr (List.mem_singleton_self _), hnew⟩)
  | @start other organization hidle hstale =>
    rcases hjoin other (s.nextTicket organization) hidle with hsame | ⟨heq, hnew⟩
    · exact .inl hsame
    · subst heq
      exact .inr (.inl ⟨_, .inl (List.mem_singleton_self _), hnew⟩)
  | @resume other ticket a hwaits hanswered =>
    have hwaiting : (s.settle ticket a).waiting = s.waiting := by
      unfold settle
      split <;> rfl
    have hsame : ((s.settle ticket a).dismiss other).waiter? caller
        = (s.dismiss other).waiter? caller := by
      simp only [waiter?, dismiss, hwaiting]
    rw [hsame]
    rcases hdismiss other with hkept | hgone
    · exact .inl hkept
    · exact .inr (.inr hgone)
  | @cancel other =>
    rcases hdismiss other with hkept | hgone
    · exact .inl hkept
    · exact .inr (.inr hgone)
  | _ => exact .inl rfl

theorem startedChange (h : Transition lifetimes s e s' hs) (organization : String) :
    s'.started organization = s.started organization
      ∨ (∃ caller, .asked caller (s.nextTicket organization) ∈ hs)
        ∧ s'.started organization = s.started organization + 1 := by
  cases h with
  | @start caller asked hidle hstale =>
    by_cases heq : organization = asked
    · subst heq
      exact .inr ⟨⟨caller, List.mem_singleton_self _⟩, update_self _ _ _⟩
    · exact .inl (update_of_ne _ _ heq)
  | @resume caller ticket a hwaits hanswered =>
    unfold settle
    split <;> exact .inl rfl
  | _ => exact .inl rfl

theorem answersChange (h : Transition lifetimes s e s' hs) (ticket : Ticket) :
    s'.answers ticket = s.answers ticket
      ∨ ∃ a, e = .answer ticket a ∧ ticket.number < s.started ticket.organization
        ∧ s.answers ticket = none ∧ s'.answers ticket = some a := by
  cases h with
  | @answer answered a hstarted hopen =>
    by_cases heq : ticket = answered
    · subst heq
      exact .inr ⟨a, rfl, hstarted, hopen, update_self _ _ _⟩
    · exact .inl (update_of_ne _ _ heq)
  | @resume caller ticket a hwaits hanswered =>
    unfold settle
    split <;> exact .inl rfl
  | _ => exact .inl rfl

theorem answered_of_answer {ticket : Ticket} {a : Answer}
    (h : Transition lifetimes s (.answer ticket a) s' hs)
    (hstarted : ticket.number < s.started ticket.organization)
    (hopen : s.answers ticket = none) : s'.answers ticket = some a := by
  cases h with
  | answer => exact update_self _ _ _
  | ignore hclosed => exact absurd ⟨hstarted, hopen⟩ hclosed

/-! ## What happens, and when -/

theorem of_asked {caller : Nat} {ticket : Ticket} (h : Transition lifetimes s e s' hs)
    (hasked : .asked caller ticket ∈ hs) :
    e = .check caller ticket.organization ∧ s.waiter? caller = none
      ∧ sweep lifetimes s ticket.organization = none
      ∧ ticket = s.nextTicket ticket.organization
      ∧ s' = s.lookUp lifetimes caller ticket.organization := by
  cases h with
  | start hidle hstale =>
    cases List.mem_singleton.1 hasked
    exact ⟨rfl, hidle, hstale, rfl, rfl⟩
  | hit => cases List.mem_singleton.1 hasked
  | join => cases List.mem_singleton.1 hasked
  | resume => cases List.mem_singleton.1 hasked
  | _ => cases hasked

theorem of_joined {caller : Nat} {ticket : Ticket} (h : Transition lifetimes s e s' hs)
    (hjoined : .joined caller ticket ∈ hs) :
    ∃ organization, e = .check caller organization ∧ s.waiter? caller = none
      ∧ s.slots organization = some (.pending ticket) := by
  cases h with
  | @join caller organization ticket hidle hpending =>
    cases List.mem_singleton.1 hjoined
    exact ⟨organization, rfl, hidle, hpending⟩
  | hit => cases List.mem_singleton.1 hjoined
  | start => cases List.mem_singleton.1 hjoined
  | resume => cases List.mem_singleton.1 hjoined
  | _ => cases hjoined

theorem of_returned_stored {caller : Nat} {organization : String} {d : Decision}
    (h : Transition lifetimes s e s' hs)
    (hreturned : .returned caller organization d .stored ∈ hs) :
    e = .check caller organization ∧ s.waiter? caller = none ∧ s' = s
      ∧ ∃ storedAt, s.slots organization = some (.ready d storedAt)
        ∧ s.now < storedAt + lifetimes.of d := by
  cases h with
  | @hit caller organization d storedAt hidle hready hfresh =>
    cases List.mem_singleton.1 hreturned
    exact ⟨rfl, hidle, rfl, storedAt, hready, hfresh⟩
  | join => cases List.mem_singleton.1 hreturned
  | start => cases List.mem_singleton.1 hreturned
  | resume => cases List.mem_singleton.1 hreturned
  | _ => cases hreturned

theorem of_returned_lookedUp {caller : Nat} {organization : String} {d : Decision}
    {ticket : Ticket} (h : Transition lifetimes s e s' hs)
    (hreturned : .returned caller organization d (.lookedUp ticket) ∈ hs) :
    e = .resume caller ∧ organization = ticket.organization
      ∧ s.waiter? caller = some ⟨caller, ticket⟩
      ∧ ∃ a, s.answers ticket = some a ∧ d = a.getD .allowed := by
  cases h with
  | @resume caller ticket a hwaits hanswered =>
    cases List.mem_singleton.1 hreturned
    exact ⟨rfl, rfl, hwaits, a, hanswered, rfl⟩
  | hit => cases List.mem_singleton.1 hreturned
  | join => cases List.mem_singleton.1 hreturned
  | start => cases List.mem_singleton.1 hreturned
  | _ => cases hreturned

end Transition

end BlockMail.Guard
