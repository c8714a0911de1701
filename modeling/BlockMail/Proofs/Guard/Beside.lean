import BlockMail.Proofs.Guard.Abandonment

/-! # One guard beside another

Two guards that differ in one caller, who waits in the second and not in the first (`Beside`).
Whatever the source or another caller does, does the same to both.

The caller can put the answer of its lookup into the slot before anybody else does.  What the
others do then, the two guards do in another order: to settle two lookups is the same either way
(`settle_comm`), and a lookup that is settled is not settled again.
-/

namespace BlockMail.Guard

open State

variable {lifetimes : Lifetimes} {s t : State} {e : Event} {caller : Nat} {ticket : Ticket}

/-! ## Settling twice -/

theorem slots_settle_apply (s : State) (ticket : Ticket) (a : Answer) (organization : String) :
    (s.settle ticket a).slots organization
      = if organization = ticket.organization ∧ s.slots organization = some (.pending ticket) then
          s.settledSlot a
        else s.slots organization := by
  rw [Transition.slots_settle]
  unfold isRegistered
  by_cases horganization : organization = ticket.organization
  · subst horganization
    simp only [beq_iff_eq, true_and]
    split
    · exact update_self _ _ _
    · rfl
  · rw [if_neg (c := _ ∧ _) fun h => horganization h.1]
    split
    · exact update_of_ne _ _ horganization
    · rfl

theorem settledSlot_ne_pending (s : State) (a : Answer) (ticket : Ticket) :
    s.settledSlot a ≠ some (.pending ticket) := by
  cases a with
  | none => nofun
  | some d => nofun

theorem isRegistered_settle (s : State) (ticket : Ticket) (a : Answer) :
    (s.settle ticket a).isRegistered ticket = false := by
  unfold isRegistered
  rw [slots_settle_apply, beq_eq_false_iff_ne]
  split
  · exact settledSlot_ne_pending s a ticket
  · next h => exact fun hpending => h ⟨rfl, hpending⟩

theorem exists_settle_settle (s : State) (first second : Ticket) (a b : Answer) :
    ∃ slots, (s.settle first a).settle second b = { s with slots } := by
  rw [settle_eq s first a]
  exact ⟨_, settle_eq _ _ _⟩

theorem settle_comm (s : State) {first second : Ticket} (hne : first ≠ second) (a b : Answer) :
    (s.settle first a).settle second b = (s.settle second b).settle first a := by
  have hslots : ((s.settle first a).settle second b).slots
      = ((s.settle second b).settle first a).slots := by
    funext organization
    have hfirst : (s.settle second b).settledSlot a = s.settledSlot a := by rw [settle_eq]; rfl
    have hsecond : (s.settle first a).settledSlot b = s.settledSlot b := by rw [settle_eq]; rfl
    have ha := settledSlot_ne_pending s a second
    have hb := settledSlot_ne_pending s b first
    simp only [slots_settle_apply, hfirst, hsecond]
    grind
  obtain ⟨slots, heq⟩ := exists_settle_settle s first second a b
  obtain ⟨slots', heq'⟩ := exists_settle_settle s second first b a
  rw [heq, heq'] at hslots ⊢
  exact congrArg (fun slots => { s with slots }) hslots

theorem settle_dismiss (s : State) (ticket : Ticket) (a : Answer) (caller : Nat) :
    (s.dismiss caller).settle ticket a = (s.settle ticket a).dismiss caller := by
  unfold State.settle
  by_cases hregistered : s.isRegistered ticket = true
  · rw [if_pos hregistered]
    exact if_pos hregistered
  · rw [if_neg hregistered]
    exact if_neg hregistered

theorem resume_of_idle (hidle : s.waiter? caller = none) : resume s caller = (s, []) := by
  simp [resume, hidle]

theorem Transition.isRegistered_eq_false {s' : State} {hs : List Happening}
    (h : Transition lifetimes s e s' hs)
    (hstarted : ticket.number < s.started ticket.organization)
    (hoff : s.isRegistered ticket = false) : s'.isRegistered ticket = false := by
  unfold isRegistered at hoff ⊢
  rw [beq_eq_false_iff_ne] at hoff ⊢
  cases h.slotChange ticket.organization with
  | kept hkept => rwa [hkept]
  | swept _ _ hgone => rw [hgone]; nofun
  | started _ hpending =>
    rw [hpending]
    intro heq
    have hnumber : s.started ticket.organization = ticket.number := by
      injection heq with heq
      injection heq with heq
      exact congrArg Ticket.number heq
    exact absurd hnumber (Nat.ne_of_gt hstarted)
  | settled _ _ _ _ _ hsettled => rw [hsettled]; exact settledSlot_ne_pending s _ ticket
  | forgotten _ hgone => rw [hgone]; nofun

theorem Transition.started_le {s' : State} {hs : List Happening}
    (h : Transition lifetimes s e s' hs) (organization : String) :
    s.started organization ≤ s'.started organization := by
  rcases h.startedChange organization with hsame | ⟨-, hnext⟩
  · exact Nat.le_of_eq hsame.symm
  · rw [hnext]
    exact Nat.le_succ _

/-! ## One guard beside another -/

/-- The caller that an event is about. -/
def Event.caller? : Event → Option Nat
  | .check caller _ | .resume caller | .cancel caller => some caller
  | .answer _ _ | .invalidate _ | .clear | .wait _ => none

/-- The state with other waiting callers. -/
def State.withWaiting (s : State) (waiting : List Waiter) : State := { s with waiting }

/-- The state in which the next lookup for an organization is registered, and swept. -/
def State.register (lifetimes : Lifetimes) (s : State) (organization : String) : State :=
  { s with
    slots := update (sweep lifetimes s) organization (some (.pending (s.nextTicket organization)))
    started := update s.started organization (s.started organization + 1) }

theorem lookUp_eq_joinOn (lifetimes : Lifetimes) (s : State) (caller : Nat)
    (organization : String) :
    s.lookUp lifetimes caller organization
      = joinOn (s.register lifetimes organization) caller (s.nextTicket organization) := rfl

theorem waiter?_settle (s : State) (ticket : Ticket) (a : Answer) (caller : Nat) :
    (s.settle ticket a).waiter? caller = s.waiter? caller := by
  rw [settle_eq]
  rfl

/-- The second state is the first one but for a caller, who does not wait in the first. -/
structure Beside (caller : Nat) (s t : State) : Prop where
  eq : ∃ waiting, t = s.withWaiting waiting
  idle : s.waiter? caller = none
  waiter_eq : ∀ other, other ≠ caller → t.waiter? other = s.waiter? other

namespace Beside

theorem slots_eq (h : Beside caller s t) : t.slots = s.slots := by
  obtain ⟨ws, rfl⟩ := h.eq
  rfl

theorem now_eq (h : Beside caller s t) : t.now = s.now := by
  obtain ⟨ws, rfl⟩ := h.eq
  rfl

theorem answers_eq (h : Beside caller s t) : t.answers = s.answers := by
  obtain ⟨ws, rfl⟩ := h.eq
  rfl

theorem map (h : Beside caller s t) (f : State → State)
    (hf : ∀ s ws, f (s.withWaiting ws) = (f s).withWaiting ws)
    (hwaiting : ∀ s, (f s).waiting = s.waiting) : Beside caller (f s) (f t) := by
  have hwaiter : ∀ s other, (f s).waiter? other = s.waiter? other := fun s other => by
    unfold waiter?
    rw [hwaiting]
  obtain ⟨ws, rfl⟩ := h.eq
  refine ⟨⟨ws, hf s ws⟩, by rw [hwaiter, h.idle], fun other hne => ?_⟩
  rw [hwaiter, hwaiter, h.waiter_eq other hne]

theorem settle (h : Beside caller s t) (ticket : Ticket) (a : Answer) :
    Beside caller (s.settle ticket a) (t.settle ticket a) := by
  refine h.map (·.settle ticket a) (fun s ws => ?_) fun s => by rw [settle_eq]
  unfold State.settle
  by_cases hregistered : s.isRegistered ticket = true
  · rw [if_pos hregistered]
    exact if_pos hregistered
  · rw [if_neg hregistered]
    exact if_neg hregistered

theorem joinOn (h : Beside caller s t) {asker : Nat} (hne : asker ≠ caller)
    (hs : s.waiter? asker = none) (ticket : Ticket) :
    Beside caller (joinOn s asker ticket) (joinOn t asker ticket)
      ∧ (Guard.joinOn t asker ticket).waiter? caller = t.waiter? caller := by
  have ht := (h.waiter_eq asker hne).trans hs
  refine ⟨⟨?_, ?_, fun other hother => ?_⟩, ?_⟩
  · obtain ⟨ws, rfl⟩ := h.eq
    exact ⟨_, rfl⟩
  · rw [waiter?_joinOn hs, if_neg (Ne.symm hne), h.idle]
  · rw [waiter?_joinOn hs, waiter?_joinOn ht, h.waiter_eq other hother]
  · rw [waiter?_joinOn ht, if_neg (Ne.symm hne)]

theorem dismiss (h : Beside caller s t) (leaver : Nat) :
    Beside caller (s.dismiss leaver) (t.dismiss leaver) := by
  refine ⟨?_, ?_, fun other hother => ?_⟩
  · obtain ⟨ws, rfl⟩ := h.eq
    exact ⟨_, rfl⟩
  · rw [waiter?_dismiss, h.idle, ite_self]
  · rw [waiter?_dismiss, waiter?_dismiss, h.waiter_eq other hother]

theorem leave (h : Beside caller s t) : Beside caller s (t.dismiss caller) := by
  refine ⟨?_, h.idle, fun other hother => ?_⟩
  · obtain ⟨ws, rfl⟩ := h.eq
    exact ⟨_, rfl⟩
  · rw [waiter?_dismiss, if_neg hother, h.waiter_eq other hother]

/-! ## One event of another caller -/

theorem check (h : Beside caller s t) {asker : Nat} (hne : asker ≠ caller)
    (organization : String) :
    Beside caller (check lifetimes s asker organization).1
        (check lifetimes t asker organization).1
      ∧ (Guard.check lifetimes t asker organization).2
        = (Guard.check lifetimes s asker organization).2
      ∧ (Guard.check lifetimes t asker organization).1.waiter? caller = t.waiter? caller := by
  have hwaiter := h.waiter_eq asker hne
  -- what is stored does not depend on who waits, so both guards take the same branch
  have hsweep : sweep lifetimes t organization = sweep lifetimes s organization := by
    obtain ⟨ws, rfl⟩ := h.eq
    rfl
  cases hbusy : s.waiter? asker with
  | some w =>
    rw [check_of_busy hbusy, check_of_busy (hwaiter.trans hbusy)]
    exact ⟨h, rfl, rfl⟩
  | none =>
    have hidle := hwaiter.trans hbusy
    cases hslot : sweep lifetimes s organization with
    | none =>
      have hticket : t.nextTicket organization = s.nextTicket organization := by
        obtain ⟨ws, rfl⟩ := h.eq
        rfl
      have hregister : Beside caller (s.register lifetimes organization)
          (t.register lifetimes organization) :=
        h.map (·.register lifetimes organization) (fun _ _ => rfl) fun _ => rfl
      have hjoin := hregister.joinOn hne hbusy (s.nextTicket organization)
      rw [check_of_stale hbusy hslot, check_of_stale hidle (hsweep.trans hslot), hticket]
      simp only [lookUp_eq_joinOn, hticket]
      exact ⟨hjoin.1, trivial, hjoin.2⟩
    | some slot =>
      cases slot with
      | ready d storedAt =>
        rw [check_of_fresh hbusy hslot, check_of_fresh hidle (hsweep.trans hslot)]
        exact ⟨h, rfl, rfl⟩
      | pending ticket =>
        have hpending := sweep_eq_pending_iff.mp hslot
        have hpending' : t.slots organization = some (.pending ticket) := by
          rw [h.slots_eq, hpending]
        rw [check_of_pending hbusy hpending, check_of_pending hidle hpending']
        exact ⟨(h.joinOn hne hbusy ticket).1, rfl, (h.joinOn hne hbusy ticket).2⟩

theorem resume (h : Beside caller s t) {resumer : Nat} (hne : resumer ≠ caller) :
    Beside caller (resume s resumer).1 (resume t resumer).1
      ∧ (Guard.resume t resumer).2 = (Guard.resume s resumer).2
      ∧ (Guard.resume t resumer).1.waiter? caller = t.waiter? caller := by
  have hwaiter := h.waiter_eq resumer hne
  cases hwaits : s.waiter? resumer with
  | none =>
    rw [resume_of_idle hwaits, resume_of_idle (hwaiter.trans hwaits)]
    exact ⟨h, rfl, rfl⟩
  | some w =>
    have hwaits' := hwaiter.trans hwaits
    cases hanswer : s.answers w.ticket with
    | none =>
      rw [resume_of_open hwaits hanswer, resume_of_open hwaits' (by rw [h.answers_eq, hanswer])]
      exact ⟨h, rfl, rfl⟩
    | some a =>
      rw [resume_of_answered hwaits hanswer,
        resume_of_answered hwaits' (by rw [h.answers_eq, hanswer])]
      refine ⟨(h.settle w.ticket a).dismiss resumer, rfl, ?_⟩
      rw [waiter?_dismiss, if_neg (Ne.symm hne), waiter?_settle]

theorem step_unseen (h : Beside caller s t)
    (hframe : ∀ s ws, (Guard.step lifetimes (s.withWaiting ws) e).1
      = (Guard.step lifetimes s e).1.withWaiting ws)
    (hwaiting : ∀ s, (Guard.step lifetimes s e).1.waiting = s.waiting)
    (hsilent : ∀ s, (Guard.step lifetimes s e).2 = []) :
    Beside caller (Guard.step lifetimes s e).1 (Guard.step lifetimes t e).1
      ∧ (Guard.step lifetimes t e).2 = (Guard.step lifetimes s e).2
      ∧ (Guard.step lifetimes t e).1.waiter? caller = t.waiter? caller := by
  refine ⟨h.map (fun s => (Guard.step lifetimes s e).1) hframe hwaiting, ?_, ?_⟩
  · rw [hsilent, hsilent]
  · unfold waiter?
    rw [hwaiting]

variable (lifetimes) in
theorem step (h : Beside caller s t) (he : e.caller? ≠ some caller) :
    Beside caller (step lifetimes s e).1 (step lifetimes t e).1
      ∧ (step lifetimes t e).2 = (step lifetimes s e).2
      ∧ (Guard.step lifetimes t e).1.waiter? caller = t.waiter? caller := by
  cases e with
  | check asker organization => exact h.check (fun heq => he (congrArg some heq)) organization
  | resume resumer => exact h.resume fun heq => he (congrArg some heq)
  | cancel leaver =>
    refine ⟨h.dismiss leaver, rfl, ?_⟩
    exact (waiter?_dismiss leaver caller).trans (if_neg fun heq => he (congrArg some heq.symm))
  | answer ticket a =>
    -- whether an answer counts depends on the lookups alone
    refine h.step_unseen (fun s ws => ?_) (fun s => ?_) fun _ => rfl
    · show Guard.answer (s.withWaiting ws) ticket a = (Guard.answer s ticket a).withWaiting ws
      unfold Guard.answer
      by_cases hopen : ticket.number < s.started ticket.organization ∧ s.answers ticket = none
      · rw [if_pos hopen]
        exact if_pos hopen
      · rw [if_neg hopen]
        exact if_neg hopen
    · show (Guard.answer s ticket a).waiting = s.waiting
      unfold Guard.answer
      split <;> rfl
  | invalidate | clear | wait =>
    exact h.step_unseen (fun _ _ => rfl) (fun _ => rfl) fun _ => rfl

theorem heard_eq (h : Beside caller s t) : heard t e = heard s e := by
  obtain ⟨ws, rfl⟩ := h.eq
  rfl

end Beside

end BlockMail.Guard
