import BlockMail.Proofs.Guard.Run

/-! # Organizations on their own

A run is cut down to one organization: whatever is done about another one is taken out, and
what is forgotten about everybody and the clock stay.  What happens for the organization, and
when, is the same in both runs.

The two guards do not remember the same.  A lookup for another organization sweeps, so the one
guard may have lost a decision that the other still stores, but only one that has expired.
`Alike` is the relation that holds between them: they agree after a sweep.  Every event that is
kept takes alike states to alike states (`Alike.step_kept`), and one that is taken out leaves
the two alike (`Alike.step_removed`).
-/

namespace BlockMail.Guard

open State

/-! ## Cutting a run down -/

def Waiter.isFor (w : Waiter) (organization : String) : Bool :=
  w.ticket.organization == organization

/-- What happens is about an organization. -/
def Happening.organization : Happening → String
  | .asked _ ticket | .joined _ ticket => ticket.organization
  | .returned _ organization _ _ => organization

/-- Whether an event is one for an organization, or for everybody.  To go on or to be cancelled
    is for the organization that the caller waits for, and a check whose caller waits for
    another organization is none for this one: it never reaches the guard. -/
def Event.isFor (s : State) (organization : String) : Event → Bool
  | .check caller asked =>
    asked == organization && (s.waiter? caller).all (·.isFor organization)
  | .answer ticket _ => ticket.organization == organization
  | .resume caller | .cancel caller => (s.waiter? caller).any (·.isFor organization)
  | .invalidate forgotten => forgotten == organization
  | .clear | .wait _ => true

/-- The events that are for an organization, or for everybody. -/
def only (lifetimes : Lifetimes) (organization : String) (s : State) : List Event → List Event
  | [] => []
  | e :: events =>
    (if e.isFor s organization then [e] else [])
      ++ only lifetimes organization (step lifetimes s e).1 events

/-- The run without what is done about other organizations. -/
def Run.only (r : Run) (organization : String) : Run :=
  { r with events := Guard.only r.lifetimes organization {} r.events }

/-! ## What the source is asked and says -/

inductive Exchange where
  /-- A lookup is started. -/
  | asked (ticket : Ticket)
  /-- The first answer to a lookup. -/
  | answered (ticket : Ticket) (answer : Answer)
  deriving DecidableEq, Repr

def Exchange.organization : Exchange → String
  | .asked ticket | .answered ticket _ => ticket.organization

def Happening.exchange? : Happening → Option Exchange
  | .asked _ ticket => some (.asked ticket)
  | .joined _ _ | .returned _ _ _ _ => none

/-- The answer that an event brings, if it is heard. -/
def heard (s : State) : Event → List Exchange
  | .answer ticket a =>
    if ticket.number < s.started ticket.organization ∧ s.answers ticket = none then
      [.answered ticket a]
    else []
  | _ => []

/-- What is said in a list of events between the guard and the source, and when. -/
def exchanges (lifetimes : Lifetimes) (s : State) : List Event → List (Nat × Exchange)
  | [] => []
  | e :: events =>
    ((step lifetimes s e).2.filterMap Happening.exchange? ++ heard s e).map (s.now, ·)
      ++ exchanges lifetimes (step lifetimes s e).1 events

/-- What is said about an organization in a run, and when. -/
def Run.dialogue (r : Run) (organization : String) : List (Nat × Exchange) :=
  (exchanges r.lifetimes {} r.events).filter (·.2.organization == organization)

/-- A source for which the organizations are independent: what it may answer about one, and
    when, depends on the lookups for that one and on its answers to them alone. -/
structure Source where
  allows : String → List (Nat × Exchange) → Prop
  /-- Nothing need be said about an organization that the source is not asked about. -/
  silent : ∀ organization, allows organization []

/-- The source answers in the run as it does. -/
def Run.Obeys (r : Run) (source : Source) : Prop :=
  ∀ organization, source.allows organization (r.dialogue organization)

/-! ## Alike states -/

/-- The lookup in a slot is one for the organization of the slot. -/
def Owned (s : State) : Prop :=
  ∀ organization ticket, s.slots organization = some (.pending ticket) →
    ticket.organization = organization

/-- The second state is the first one as far as an organization is concerned, and nobody waits
    in it for another one.  A decision may have been swept from one of them, but only one that
    can no longer be used. -/
structure Alike (lifetimes : Lifetimes) (organization : String) (s t : State) : Prop where
  now_eq : t.now = s.now
  sweep_eq : sweep lifetimes t organization = sweep lifetimes s organization
  started_eq : t.started organization = s.started organization
  answers_eq : ∀ ticket, ticket.organization = organization → t.answers ticket = s.answers ticket
  waiter_eq : ∀ caller, t.waiter? caller = (s.waiter? caller).filter (·.isFor organization)
  owned : Owned s

variable {lifetimes : Lifetimes} {organization : String} {s s' t t' : State} {e : Event}

theorem Owned.step (h : Owned s) {hs : List Happening} (ht : Transition lifetimes s e s' hs) :
    Owned s' := by
  intro organization ticket hpending
  cases ht.slotChange organization with
  | kept hkept => exact h organization ticket (hkept.symm.trans hpending)
  | swept _ _ hgone => cases hgone.symm.trans hpending
  | started _ hstarted =>
    cases hstarted.symm.trans hpending
    rfl
  | @settled _ _ a _ _ _ _ _ hsettled =>
    cases a with
    | none => cases hsettled.symm.trans hpending
    | some d => cases hsettled.symm.trans hpending
  | forgotten _ hgone => cases hgone.symm.trans hpending

/-! ## Sweeping -/

theorem sweep_congr (hnow : t.now = s.now) (hslot : t.slots organization = s.slots organization) :
    sweep lifetimes t organization = sweep lifetimes s organization := by
  unfold sweep isFresh
  rw [hnow, hslot]

/-- What is left by a sweep is left alone by the next one. -/
theorem sweep_of_swept (hnow : t.now = s.now)
    (hslot : t.slots organization = sweep lifetimes s organization) :
    sweep lifetimes t organization = sweep lifetimes s organization := by
  unfold sweep isFresh at hslot ⊢
  rw [hnow, hslot, Option.filter_filter]
  simp

theorem slots_of_sweep_eq (h : sweep lifetimes t organization = sweep lifetimes s organization)
    {slot : Slot} (hsweep : sweep lifetimes s organization = some slot) :
    t.slots organization = some slot :=
  slots_of_sweep (h.trans hsweep)

theorem sweep_wait (hnow : t.now = s.now)
    (h : sweep lifetimes t organization = sweep lifetimes s organization) (duration : Nat) :
    sweep lifetimes { t with now := t.now + duration } organization
      = sweep lifetimes { s with now := s.now + duration } organization := by
  have hsurvives : ∀ s t : State, t.now = s.now →
      sweep lifetimes t organization = sweep lifetimes s organization → ∀ slot,
      sweep lifetimes { s with now := s.now + duration } organization = some slot →
      sweep lifetimes { t with now := t.now + duration } organization = some slot := by
    intro s t hnow h slot hslot
    cases slot with
    | pending ticket =>
      have hpending := sweep_eq_pending_iff.mp hslot
      exact sweep_eq_pending_iff.mpr (slots_of_sweep_eq h (sweep_eq_pending_iff.mpr hpending))
    | ready d storedAt =>
      obtain ⟨hready, hfresh⟩ := sweep_eq_ready_iff.mp hslot
      have hnow' : s.now < storedAt + lifetimes.of d :=
        Nat.lt_of_le_of_lt (Nat.le_add_right _ _) hfresh
      refine sweep_eq_ready_iff.mpr ⟨?_, by rw [hnow]; exact hfresh⟩
      exact slots_of_sweep_eq h (sweep_eq_ready_iff.mpr ⟨hready, hnow'⟩)
  refine Option.ext fun slot => ⟨?_, ?_⟩
  · exact hsurvives t s hnow.symm h.symm slot
  · exact hsurvives s t hnow h slot

/-! ## Checks and their returns -/

theorem check_of_busy {caller : Nat} {w : Waiter} (hbusy : s.waiter? caller = some w) :
    check lifetimes s caller organization = (s, []) := by
  simp [check, hbusy]

theorem check_of_fresh {caller : Nat} {d : Decision} {storedAt : Nat}
    (hidle : s.waiter? caller = none)
    (hsweep : sweep lifetimes s organization = some (.ready d storedAt)) :
    check lifetimes s caller organization = (s, [.returned caller organization d .stored]) := by
  simp [check, hidle, hsweep]

theorem check_of_stale {caller : Nat} (hidle : s.waiter? caller = none)
    (hsweep : sweep lifetimes s organization = none) :
    check lifetimes s caller organization
      = (s.lookUp lifetimes caller organization, [.asked caller (s.nextTicket organization)]) := by
  simp [check, hidle, hsweep]

theorem resume_of_open {caller : Nat} {w : Waiter} (hwaits : s.waiter? caller = some w)
    (hopen : s.answers w.ticket = none) : resume s caller = (s, []) := by
  simp [resume, hwaits, hopen]

theorem resume_of_answered {caller : Nat} {w : Waiter} {a : Answer}
    (hwaits : s.waiter? caller = some w) (hanswered : s.answers w.ticket = some a) :
    resume s caller
      = ((s.settle w.ticket a).dismiss caller,
        [.returned caller w.ticket.organization (a.getD .allowed) (.lookedUp w.ticket)]) := by
  simp [resume, hwaits, hanswered]

/-! ## Waiting callers -/

theorem settle_eq (s : State) (ticket : Ticket) (a : Answer) :
    s.settle ticket a = { s with slots := (s.settle ticket a).slots } := by
  unfold settle
  split <;> rfl

namespace Alike

variable {caller : Nat} {ticket : Ticket}

theorem waiter?_of_all (h : Alike lifetimes organization s t)
    (hall : (s.waiter? caller).all (·.isFor organization) = true) :
    t.waiter? caller = s.waiter? caller := by
  rw [h.waiter_eq]
  cases hwaiter : s.waiter? caller with
  | none => rfl
  | some w =>
    rw [hwaiter, Option.all_some] at hall
    rw [Option.filter_some, if_pos hall]

theorem waiter?_joinOn (h : Alike lifetimes organization s t) (hs : s.waiter? caller = none)
    (ht : t.waiter? caller = none) (hticket : ticket.organization = organization) (other : Nat) :
    (joinOn t caller ticket).waiter? other
      = ((joinOn s caller ticket).waiter? other).filter (·.isFor organization) := by
  have hfor : Waiter.isFor ⟨caller, ticket⟩ organization = true := beq_iff_eq.mpr hticket
  rw [Guard.waiter?_joinOn hs, Guard.waiter?_joinOn ht, h.waiter_eq]
  split
  · rw [Option.filter_some, if_pos hfor]
  · rfl

theorem waiter?_dismiss (h : Alike lifetimes organization s t) (other : Nat) :
    (t.dismiss caller).waiter? other
      = ((s.dismiss caller).waiter? other).filter (·.isFor organization) := by
  rw [Guard.waiter?_dismiss, Guard.waiter?_dismiss, h.waiter_eq]
  split <;> rfl

/-! ## One event -/

theorem of_frame (h : Alike lifetimes organization s t) {hs : List Happening}
    (htransition : Transition lifetimes s e s' hs) (hnow : s'.now = s.now)
    (hsweep : sweep lifetimes s' organization = sweep lifetimes s organization)
    (hstarted : s'.started organization = s.started organization)
    (hanswers : ∀ ticket, ticket.organization = organization →
      s'.answers ticket = s.answers ticket)
    (hwaiters : ∀ caller, (s'.waiter? caller).filter (·.isFor organization)
      = (s.waiter? caller).filter (·.isFor organization)) :
    Alike lifetimes organization s' t where
  now_eq := by rw [hnow, h.now_eq]
  sweep_eq := by rw [hsweep, h.sweep_eq]
  started_eq := by rw [hstarted, h.started_eq]
  answers_eq ticket hticket := by rw [hanswers ticket hticket, h.answers_eq ticket hticket]
  waiter_eq caller := by rw [hwaiters, h.waiter_eq]
  owned := h.owned.step htransition

theorem filter_joinOn (hidle : s.waiter? caller = none)
    (hticket : ticket.organization ≠ organization) (other : Nat) :
    ((joinOn s caller ticket).waiter? other).filter (·.isFor organization)
      = (s.waiter? other).filter (·.isFor organization) := by
  rw [Guard.waiter?_joinOn hidle]
  split
  · next heq => simp [heq, hidle, Waiter.isFor, hticket]
  · rfl

theorem filter_dismiss (hwaits : (s.waiter? caller).any (·.isFor organization) = false)
    (other : Nat) :
    ((s.dismiss caller).waiter? other).filter (·.isFor organization)
      = (s.waiter? other).filter (·.isFor organization) := by
  rw [Guard.waiter?_dismiss]
  split
  · next heq =>
    subst heq
    cases hwaiter : s.waiter? other with
    | none => rfl
    | some w =>
      rw [hwaiter, Option.any_some] at hwaits
      rw [Option.filter_some, if_neg (by rw [hwaits]; exact Bool.false_ne_true), Option.filter_none]
  · rfl

theorem step_removed (h : Alike lifetimes organization s t)
    (he : e.isFor s organization = false) :
    Alike lifetimes organization (step lifetimes s e).1 t := by
  have htransition : Transition lifetimes s e _ _ := step_transition e
  generalize (step lifetimes s e).1 = s' at htransition ⊢
  generalize (step lifetimes s e).2 = hs at htransition
  have htransition' := htransition
  cases htransition with
  | busy => exact h
  | hit => exact h
  | @join caller asked ticket hidle hpending =>
    have hother : asked ≠ organization := by simpa [Event.isFor, hidle] using he
    have hticket : ticket.organization ≠ organization :=
      (h.owned asked ticket hpending).symm ▸ hother
    exact h.of_frame htransition' rfl rfl rfl (fun _ _ => rfl) (filter_joinOn hidle hticket)
  | @start caller asked hidle hstale =>
    have hother : asked ≠ organization := by simpa [Event.isFor, hidle] using he
    refine h.of_frame htransition' rfl (sweep_of_swept rfl ?_) ?_ (fun _ _ => rfl)
      (filter_joinOn hidle hother)
    · exact update_of_ne _ _ (Ne.symm hother)
    · exact update_of_ne _ _ (Ne.symm hother)
  | @answer ticket a =>
    have hother : ticket.organization ≠ organization := by simpa [Event.isFor] using he
    refine h.of_frame htransition' rfl rfl rfl (fun other hticket => ?_) (fun _ => rfl)
    exact update_of_ne _ _ fun heq => hother (heq ▸ hticket)
  | ignore => exact h
  | stay => exact h
  | @resume caller ticket a hwaits hanswered =>
    have hother : ticket.organization ≠ organization := by
      simpa [Event.isFor, hwaits, Waiter.isFor] using he
    rw [settle_eq] at htransition' ⊢
    refine h.of_frame htransition' rfl (sweep_congr rfl ?_) rfl (fun _ _ => rfl)
      (filter_dismiss he)
    show (s.settle ticket a).slots organization = s.slots organization
    rw [Transition.slots_settle]
    split
    · exact update_of_ne _ _ (Ne.symm hother)
    · rfl
  | @cancel caller =>
    exact h.of_frame htransition' rfl rfl rfl (fun _ _ => rfl) (filter_dismiss he)
  | @invalidate forgotten =>
    have hother : forgotten ≠ organization := by simpa [Event.isFor] using he
    refine h.of_frame htransition' rfl (sweep_congr rfl ?_) rfl (fun _ _ => rfl) (fun _ => rfl)
    exact update_of_ne _ _ (Ne.symm hother)
  | clear => cases he
  | wait => cases he

theorem nextTicket_eq (h : Alike lifetimes organization s t) :
    t.nextTicket organization = s.nextTicket organization := by
  rw [nextTicket, h.started_eq, nextTicket]

theorem lookUp_kept (h : Alike lifetimes organization s t) (hs : s.waiter? caller = none)
    (ht : t.waiter? caller = none) (howned : Owned (s.lookUp lifetimes caller organization)) :
    Alike lifetimes organization (s.lookUp lifetimes caller organization)
      (t.lookUp lifetimes caller organization) := by
  have hnext := h.nextTicket_eq
  have hsweep : ∀ s : State, sweep lifetimes (s.lookUp lifetimes caller organization) organization
      = some (.pending (s.nextTicket organization)) := fun s =>
    sweep_eq_pending_iff.mpr (update_self _ _ _)
  have hstarted : ∀ s : State, (s.lookUp lifetimes caller organization).started organization
      = (s.nextTicket organization).number + 1 := fun s => update_self _ _ _
  have hjoin : ∀ other, (joinOn t caller (t.nextTicket organization)).waiter? other
      = ((joinOn s caller (s.nextTicket organization)).waiter? other).filter
          (·.isFor organization) := by
    rw [hnext]
    exact h.waiter?_joinOn hs ht rfl
  exact ⟨h.now_eq, by rw [hsweep, hsweep, hnext], by rw [hstarted, hstarted, hnext], h.answers_eq,
    hjoin, howned⟩

theorem check_kept (h : Alike lifetimes organization s t)
    (hall : (s.waiter? caller).all (·.isFor organization) = true) :
    Alike lifetimes organization (check lifetimes s caller organization).1
        (check lifetimes t caller organization).1
      ∧ (check lifetimes t caller organization).2 = (check lifetimes s caller organization).2 := by
  have howned : Owned (check lifetimes s caller organization).1 :=
    h.owned.step (check_transition caller organization)
  have hwaiter := h.waiter?_of_all hall
  -- the branches agree: the caller waits in both or in none, and the sweep leaves the same
  cases hs : s.waiter? caller with
  | some w =>
    rw [check_of_busy hs, check_of_busy (hwaiter.trans hs)]
    exact ⟨h, rfl⟩
  | none =>
    have ht := hwaiter.trans hs
    cases hsweep : sweep lifetimes s organization with
    | none =>
      rw [check_of_stale hs hsweep] at howned ⊢
      rw [check_of_stale ht (h.sweep_eq.trans hsweep), h.nextTicket_eq]
      exact ⟨h.lookUp_kept hs ht howned, rfl⟩
    | some slot =>
      cases slot with
      | ready d storedAt =>
        rw [check_of_fresh hs hsweep, check_of_fresh ht (h.sweep_eq.trans hsweep)]
        exact ⟨h, rfl⟩
      | pending ticket =>
        have hpending := sweep_eq_pending_iff.mp hsweep
        have hpending' := sweep_eq_pending_iff.mp (h.sweep_eq.trans hsweep)
        rw [check_of_pending hs hpending] at howned ⊢
        rw [check_of_pending ht hpending']
        have hjoin := h.waiter?_joinOn hs ht (h.owned organization ticket hpending)
        exact ⟨⟨h.now_eq, h.sweep_eq, h.started_eq, h.answers_eq, hjoin, howned⟩, rfl⟩

theorem answer_kept (h : Alike lifetimes organization s t)
    (hticket : ticket.organization = organization) (a : Answer) :
    Alike lifetimes organization (answer s ticket a) (answer t ticket a)
      ∧ heard t (.answer ticket a) = heard s (.answer ticket a) := by
  have htransition : Transition lifetimes s (.answer ticket a) _ _ := step_transition _
  have howned : Owned (answer s ticket a) := h.owned.step htransition
  have hcondition : (ticket.number < t.started ticket.organization ∧ t.answers ticket = none)
      = (ticket.number < s.started ticket.organization ∧ s.answers ticket = none) := by
    rw [h.answers_eq ticket hticket, hticket, h.started_eq]
  unfold answer heard at *
  simp only [hcondition, and_true]
  split
  · rw [if_pos ‹_›] at howned
    refine ⟨h.now_eq, h.sweep_eq, h.started_eq, fun other hother => ?_, h.waiter_eq, howned⟩
    show update t.answers ticket (some a) other = update s.answers ticket (some a) other
    unfold update
    rw [h.answers_eq other hother]
  · exact h

theorem isRegistered_eq (h : Alike lifetimes organization s t)
    (hticket : ticket.organization = organization) :
    t.isRegistered ticket = s.isRegistered ticket := by
  have hiff : t.slots ticket.organization = some (.pending ticket)
      ↔ s.slots ticket.organization = some (.pending ticket) := by
    have hsweep : sweep lifetimes t organization = some (.pending ticket)
        ↔ sweep lifetimes s organization = some (.pending ticket) := by
      rw [h.sweep_eq]
    rwa [sweep_eq_pending_iff, sweep_eq_pending_iff, ← hticket] at hsweep
  unfold isRegistered
  rw [Bool.eq_iff_iff, beq_iff_eq, beq_iff_eq, hiff]

theorem sweep_settle (h : Alike lifetimes organization s t)
    (hticket : ticket.organization = organization) (a : Answer) :
    sweep lifetimes (t.settle ticket a) organization
      = sweep lifetimes (s.settle ticket a) organization := by
  unfold settle
  rw [h.isRegistered_eq hticket]
  split
  · refine sweep_congr h.now_eq ?_
    show update _ ticket.organization _ _ = update _ ticket.organization _ _
    rw [hticket, update_self, update_self]
    unfold settledSlot
    rw [h.now_eq]
  · exact h.sweep_eq

theorem resume_kept (h : Alike lifetimes organization s t)
    (hany : (s.waiter? caller).any (·.isFor organization) = true) :
    Alike lifetimes organization (resume s caller).1 (resume t caller).1
      ∧ (resume t caller).2 = (resume s caller).2 := by
  have htransition : Transition lifetimes s (.resume caller) _ _ := resume_transition caller
  have howned : Owned (resume s caller).1 := h.owned.step htransition
  obtain ⟨w, hw, hfor⟩ := (Option.any_eq_true _ _).mp hany
  have hwaiter := h.waiter?_of_all (by rw [hw]; exact hfor)
  have hticket : w.ticket.organization = organization := beq_iff_eq.mp hfor
  have hanswers := h.answers_eq w.ticket hticket
  cases hanswer : s.answers w.ticket with
  | none =>
    rw [resume_of_open hw hanswer, resume_of_open (hwaiter.trans hw) (hanswers.trans hanswer)]
    exact ⟨h, rfl⟩
  | some a =>
    rw [resume_of_answered hw hanswer] at howned ⊢
    rw [resume_of_answered (hwaiter.trans hw) (hanswers.trans hanswer)]
    refine ⟨⟨?_, h.sweep_settle hticket a, ?_, ?_, ?_, howned⟩, rfl⟩
    all_goals rw [settle_eq t, settle_eq s]
    · exact h.now_eq
    · exact h.started_eq
    · exact h.answers_eq
    · exact h.waiter?_dismiss

/-- Both guards go on alike with an event that is kept, and the same happens. -/
theorem step_kept (h : Alike lifetimes organization s t) (he : e.isFor s organization = true) :
    Alike lifetimes organization (step lifetimes s e).1 (step lifetimes t e).1
      ∧ (step lifetimes t e).2 = (step lifetimes s e).2 ∧ heard t e = heard s e := by
  have howned : Owned (step lifetimes s e).1 := h.owned.step (step_transition e)
  cases e with
  | check caller asked =>
    obtain ⟨hasked, hall⟩ := Bool.and_eq_true_iff.mp he
    obtain rfl : asked = organization := beq_iff_eq.mp hasked
    obtain ⟨halike, hhappens⟩ := h.check_kept hall
    exact ⟨halike, hhappens, rfl⟩
  | answer ticket a =>
    obtain ⟨halike, hheard⟩ := h.answer_kept (beq_iff_eq.mp he) a
    exact ⟨halike, rfl, hheard⟩
  | resume caller =>
    obtain ⟨halike, hhappens⟩ := h.resume_kept he
    exact ⟨halike, hhappens, rfl⟩
  | cancel caller =>
    exact ⟨⟨h.now_eq, h.sweep_eq, h.started_eq, h.answers_eq, h.waiter?_dismiss, howned⟩, rfl, rfl⟩
  | invalidate forgotten =>
    obtain rfl : forgotten = organization := beq_iff_eq.mp he
    have hgone : ∀ s : State,
        sweep lifetimes { s with slots := update s.slots forgotten none } forgotten = none :=
      fun s => sweep_eq_none_iff.mpr (.inl (update_self _ _ _))
    have hsweep := (hgone t).trans (hgone s).symm
    exact ⟨⟨h.now_eq, hsweep, h.started_eq, h.answers_eq, h.waiter_eq, howned⟩, rfl, rfl⟩
  | clear =>
    exact ⟨⟨h.now_eq, rfl, h.started_eq, h.answers_eq, h.waiter_eq, howned⟩, rfl, rfl⟩
  | wait duration =>
    exact ⟨⟨congrArg (· + duration) h.now_eq, sweep_wait h.now_eq h.sweep_eq duration,
      h.started_eq, h.answers_eq, h.waiter_eq, howned⟩, rfl, rfl⟩

end Alike

/-! ## A whole run -/

theorem Owned.organization_eq (h : Owned s) {hs : List Happening}
    (ht : Transition lifetimes s e s' hs) (organization : String) :
    ∀ x ∈ hs, (x.organization == organization) = e.isFor s organization := by
  cases ht with
  | @hit caller asked d storedAt hidle =>
    rw [List.forall_mem_singleton, Event.isFor, hidle]
    exact (Bool.and_true _).symm
  | @join caller asked ticket hidle hpending =>
    rw [List.forall_mem_singleton, Event.isFor, hidle, ← h asked ticket hpending]
    exact (Bool.and_true _).symm
  | @start caller asked hidle =>
    rw [List.forall_mem_singleton, Event.isFor, hidle]
    exact (Bool.and_true _).symm
  | @resume caller ticket a hwaits =>
    rw [List.forall_mem_singleton, Event.isFor, hwaits]
    rfl
  | _ => nofun

theorem exchange_organization {hs : List Happening}
    (h : ∀ x ∈ hs, (x.organization == organization) = e.isFor s organization) :
    ∀ x ∈ hs.filterMap Happening.exchange? ++ heard s e,
      (x.organization == organization) = e.isFor s organization := by
  refine List.forall_mem_append.mpr ⟨fun x hx => ?_, fun x hx => ?_⟩
  · obtain ⟨happening, hmem, hexchange⟩ := List.mem_filterMap.mp hx
    rw [← h happening hmem]
    cases happening <;> cases hexchange
    rfl
  · cases e with
    | answer ticket a =>
      simp only [heard, List.mem_ite_nil_right, List.mem_singleton] at hx
      rw [hx.2]
      rfl
    | _ => cases hx

/-- Of what one event brings about, all or nothing is for an organization. -/
theorem filter_map_time {α : Type} {about : α → String} {xs : List α} {isFor : Bool} (time : Nat)
    (h : ∀ x ∈ xs, (about x == organization) = isFor) :
    (xs.map fun x => (time, x)).filter (fun x => about x.2 == organization)
      = if isFor then xs.map fun x => (time, x) else [] := by
  cases isFor with
  | true =>
    refine List.filter_eq_self.mpr fun x hx => ?_
    obtain ⟨y, hy, rfl⟩ := List.mem_map.mp hx
    exact h y hy
  | false =>
    refine List.filter_eq_nil_iff.mpr fun x hx => ?_
    obtain ⟨y, hy, rfl⟩ := List.mem_map.mp hx
    rw [h y hy]
    exact Bool.false_ne_true

theorem Alike.trace_only (h : Alike lifetimes organization s t) (events : List Event) :
    trace lifetimes t (only lifetimes organization s events)
        = (trace lifetimes s events).filter (·.2.organization == organization)
      ∧ exchanges lifetimes t (only lifetimes organization s events)
        = (exchanges lifetimes s events).filter (·.2.organization == organization) := by
  induction events generalizing s t with
  | nil => exact ⟨rfl, rfl⟩
  | cons e events ih =>
    have htransition : Transition lifetimes s e _ _ := step_transition e
    have hfor := h.owned.organization_eq htransition organization
    have hhappens := filter_map_time s.now hfor
    have hsaid := filter_map_time s.now (exchange_organization hfor)
    rw [trace, exchanges, List.filter_append, List.filter_append, hhappens, hsaid, only]
    -- an event is kept with all that it brings about, or it is removed with all of it
    cases he : e.isFor s organization with
    | true =>
      obtain ⟨halike, hsame, hheard⟩ := h.step_kept he
      obtain ⟨htrace, hexchanges⟩ := ih halike
      rw [if_pos rfl, if_pos rfl, if_pos rfl, List.singleton_append, trace, exchanges, hsame,
        hheard, h.now_eq, htrace, hexchanges]
      exact ⟨rfl, rfl⟩
    | false => exact ih (h.step_removed he)

theorem alike_initial (lifetimes : Lifetimes) (organization : String) :
    Alike lifetimes organization {} {} :=
  ⟨rfl, rfl, rfl, fun _ _ => rfl, fun _ => rfl, nofun⟩

theorem Run.dialogue_only (r : Run) (organization : String) :
    (r.only organization).dialogue organization = r.dialogue organization
      ∧ ∀ other, other ≠ organization → (r.only organization).dialogue other = [] := by
  have hexchanges := ((alike_initial r.lifetimes organization).trace_only r.events).2
  unfold Run.dialogue Run.only
  rw [hexchanges]
  refine ⟨by simp [List.filter_filter], fun other hother => ?_⟩
  rw [List.filter_filter]
  refine List.filter_eq_nil_iff.mpr fun x _ hx => ?_
  obtain ⟨hx, hx'⟩ := Bool.and_eq_true_iff.mp hx
  exact hother ((beq_iff_eq.mp hx).symm.trans (beq_iff_eq.mp hx'))

/-- **Isolation.**  Take everything that is done about other organizations out of a run with a
    source for which the organizations are independent.  What is left is a run with the same
    source; every check of the organization has its result, and every lookup for it is started,
    at the same time as before. -/
theorem organizations_isolated (source : Source) (r : Run) (organization : String)
    (hsource : r.Obeys source) :
    (r.only organization).Obeys source
      ∧ trace r.lifetimes {} (r.only organization).events
        = (trace r.lifetimes {} r.events).filter (·.2.organization == organization) := by
  obtain ⟨hsame, hsilent⟩ := r.dialogue_only organization
  refine ⟨fun other => ?_, ((alike_initial r.lifetimes organization).trace_only r.events).1⟩
  by_cases heq : other = organization
  · rw [heq, hsame]
    exact hsource organization
  · rw [hsilent other heq]
    exact source.silent other

/-- A decision about the studio expires, and a lookup for the gallery sweeps it before the studio
    is asked about again. -/
def sweptByAnother : Run where
  lifetimes := { allowed := 60, blocked := 15 }
  events :=
    [ .check 0 "studio", .check 1 "gallery", .answer ⟨"studio", 0⟩ (some .allowed), .resume 0,
      .wait 60, .invalidate "gallery", .check 2 "gallery", .answer ⟨"gallery", 1⟩ none, .cancel 1,
      .check 0 "studio", .check 3 "studio", .answer ⟨"studio", 1⟩ (some .allowed), .resume 3,
      .resume 2 ]

/-- A source that lets the studio pass and fails for any other organization. -/
def studioSource : Source where
  allows organization dialogue := ∀ x ∈ dialogue, ∀ ticket a, x.2 = .answered ticket a →
    a = if organization = "studio" then some .allowed else none
  silent := nofun

theorem sweptByAnother_obeys : sweptByAnother.Obeys studioSource := by
  have hsaid : exchanges sweptByAnother.lifetimes {} sweptByAnother.events
      = [ (0, .asked ⟨"studio", 0⟩), (0, .asked ⟨"gallery", 0⟩),
          (0, .answered ⟨"studio", 0⟩ (some .allowed)), (60, .asked ⟨"gallery", 1⟩),
          (60, .answered ⟨"gallery", 1⟩ none), (60, .asked ⟨"studio", 1⟩),
          (60, .answered ⟨"studio", 1⟩ (some .allowed)) ] := by
    decide
  intro organization x hx ticket a heq
  rw [Run.dialogue, hsaid] at hx
  obtain ⟨hmem, hfor⟩ := List.mem_filter.mp hx
  obtain rfl : x.2.organization = organization := beq_iff_eq.mp hfor
  simp only [List.mem_cons, List.not_mem_nil, or_false] at hmem
  rcases hmem with rfl | rfl | rfl | rfl | rfl | rfl | rfl <;> cases heq <;> rfl

/-- Only one of the two guards has lost the studio's decision, and the studio does not notice. -/
theorem organizations_isolated_swept :
    sweptByAnother.slotAt 9 "studio" = none
      ∧ (sweptByAnother.only "studio").slotAt 4 "studio" = some (.ready .allowed 0)
      ∧ (sweptByAnother.only "studio").Obeys studioSource
      ∧ trace sweptByAnother.lifetimes {} (sweptByAnother.only "studio").events
        = [ (0, .asked 0 ⟨"studio", 0⟩),
            (0, .returned 0 "studio" .allowed (.lookedUp ⟨"studio", 0⟩)),
            (60, .asked 0 ⟨"studio", 1⟩), (60, .joined 3 ⟨"studio", 1⟩),
            (60, .returned 3 "studio" .allowed (.lookedUp ⟨"studio", 1⟩)) ] := by
  obtain ⟨hobeys, htrace⟩ :=
    organizations_isolated studioSource sweptByAnother "studio" sweptByAnother_obeys
  refine ⟨by decide, by decide, hobeys, ?_⟩
  rw [htrace]
  decide

end BlockMail.Guard
