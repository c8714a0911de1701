import BlockMail.Proofs.Guard.Transition

/-! # Runs of the guard

A run is a list of events that meets the guard in its initial state.  Claims about
interleavings are claims about the order of events, so the events are numbered:
position `i` stands for the moment of event `i`, and `Run.stateAt i` is the state
that this event meets.

- `Run.Starts`, `Run.Answers` and `Run.Settles` are the three events in the life of
  a lookup: the source is asked, it answers, and the answer is put into the slot.
- `Run.CheckReturns` ties the beginning of a check to its return.
- `Run.Stored` and `Run.ObtainedBy` say where a returned decision comes from.

Facts about the past of a state come from `last_change`: whatever holds now and
did not hold at first became true at some position and has held since.
-/

namespace BlockMail.Guard

open State

/-- A run of the guard from its initial state. -/
structure Run where
  lifetimes : Lifetimes := {}
  events : List Event

namespace Run

variable (r : Run)

/-- The event at a position.  Behind the last event time stands still. -/
def eventAt (i : Nat) : Event := r.events[i]?.getD (.wait 0)

/-- The state that the event at a position meets. -/
def stateAt : Nat → State
  | 0 => {}
  | i + 1 => (step r.lifetimes (stateAt i) (r.eventAt i)).1

/-- The time at a position. -/
def timeAt (i : Nat) : Nat := (r.stateAt i).now

/-- What is known about an organization at a position. -/
def slotAt (i : Nat) (organization : String) : Option Slot := (r.stateAt i).slots organization

/-- The event at a position makes something happen. -/
def Happens (i : Nat) (h : Happening) : Prop :=
  h ∈ (step r.lifetimes (r.stateAt i) (r.eventAt i)).2

instance (i : Nat) (h : Happening) : Decidable (r.Happens i h) :=
  inferInstanceAs (Decidable (h ∈ (step r.lifetimes (r.stateAt i) (r.eventAt i)).2))

/-! ## Lookups -/

/-- A lookup is started: somebody makes the source be asked. -/
def Starts (i : Nat) (ticket : Ticket) : Prop :=
  ∃ caller, r.Happens i (.asked caller ticket)

/-- The source answers a lookup, for the first time since it was started. -/
structure Answers (i : Nat) (ticket : Ticket) (a : Answer) : Prop where
  event : r.eventAt i = .answer ticket a
  started : ∃ k < i, r.Starts k ticket
  first : ∀ k m b, k < m → m < i → r.Starts k ticket → r.eventAt m ≠ .answer ticket b

/-- A caller waits on a lookup. -/
def WaitsOn (i : Nat) (caller : Nat) (ticket : Ticket) : Prop :=
  (r.stateAt i).waiter? caller = some ⟨caller, ticket⟩

/-- A caller waits for nothing. -/
def Idle (i : Nat) (caller : Nat) : Prop := (r.stateAt i).waiter? caller = none

instance (i caller : Nat) (ticket : Ticket) : Decidable (r.WaitsOn i caller ticket) :=
  inferInstanceAs (Decidable (_ = _))

instance (i caller : Nat) : Decidable (r.Idle i caller) :=
  inferInstanceAs (Decidable (_ = _))

/-- A caller goes on with the answer of its lookup, and that lookup is still the one
    registered for its organization: the slot is settled. -/
structure Settles (i : Nat) (ticket : Ticket) (a : Answer) : Prop where
  resumes : ∃ caller, r.eventAt i = .resume caller ∧ r.WaitsOn i caller ticket
  answered : ∃ k < i, r.Answers k ticket a
  registered : r.slotAt i ticket.organization = some (.pending ticket)

/-- No lookup of an organization is started after that of the ticket. -/
def Latest (j : Nat) (ticket : Ticket) : Prop :=
  ∃ i < j, r.Starts i ticket
    ∧ ∀ k number, i < k → k < j → ¬ r.Starts k ⟨ticket.organization, number⟩

/-- What is known about an organization is forgotten. -/
def Forgets (i : Nat) (organization : String) : Prop :=
  r.eventAt i = .invalidate organization ∨ r.eventAt i = .clear

/-! ## Checks -/

/-- The check that a caller begins at position `i` returns at position `j`; in
    between the caller waits all the time. -/
structure CheckReturns (i j : Nat) (caller : Nat) (organization : String) (d : Decision)
    (origin : Origin) : Prop where
  begins : r.eventAt i = .check caller organization
  idle : r.Idle i caller
  ordered : i ≤ j
  waits : ∀ k, i < k → k ≤ j → ¬ r.Idle k caller
  returns : r.Happens j (.returned caller organization d origin)

/-- The answer of a lookup is put into the slot of its organization at position `m`,
    and at position `j` it has been there ever since. -/
structure Stored (m j : Nat) (ticket : Ticket) (d : Decision) : Prop where
  before : m < j
  settles : r.Settles m ticket (some d)
  kept : ∀ k, m < k → k ≤ j →
    r.slotAt k ticket.organization = some (.ready d (r.timeAt m))

/-- The lookup by which a decision returned at position `j` was obtained: the one
    that the caller waited on, or the one whose answer was stored. -/
def ObtainedBy (j : Nat) (organization : String) (d : Decision) (origin : Origin)
    (ticket : Ticket) : Prop :=
  match origin with
  | .lookedUp t => t = ticket
  | .stored => ticket.organization = organization ∧ ∃ m, r.Stored m j ticket d

/-! ## The run as a list -/

variable {r}

theorem stateAt_eq_run (i : Nat) : r.stateAt i = run r.lifetimes {} (r.events.take i) := by
  induction i with
  | zero => rfl
  | succ i ih =>
    rw [stateAt, ih, List.take_add_one, run_append]
    unfold eventAt
    cases r.events[i]? <;> rfl

theorem lt_length_of_happens {i : Nat} {h : Happening} (hi : r.Happens i h) :
    i < r.events.length := by
  rcases Nat.lt_or_ge i r.events.length with hlt | hge
  · exact hlt
  · have hwait : r.eventAt i = .wait 0 := by
      rw [eventAt, List.getElem?_eq_none hge]
      rfl
    rw [Happens, hwait] at hi
    cases hi

theorem mem_trace_take_iff {t : Nat} {h : Happening} (n : Nat) :
    (t, h) ∈ trace r.lifetimes {} (r.events.take n)
      ↔ ∃ i < n, r.Happens i h ∧ r.timeAt i = t := by
  induction n with
  | zero => simp [trace]
  | succ n ih =>
    have hlast : (t, h) ∈ trace r.lifetimes (r.stateAt n) r.events[n]?.toList
        ↔ r.Happens n h ∧ r.timeAt n = t := by
      unfold Happens timeAt eventAt
      cases r.events[n]? with
      | none => simp [trace, step]
      | some e =>
        simp only [trace, Option.toList_some, List.append_nil, List.mem_map, Prod.mk.injEq,
          Option.getD_some]
        constructor
        · rintro ⟨h', hmem, htime, rfl⟩
          exact ⟨hmem, htime⟩
        · rintro ⟨hmem, htime⟩
          exact ⟨h, hmem, htime, rfl⟩
    rw [List.take_add_one, trace_append, List.mem_append, ih, ← stateAt_eq_run, hlast]
    constructor
    · rintro (⟨i, hin, hi⟩ | hn)
      · exact ⟨i, Nat.lt_succ_of_lt hin, hi⟩
      · exact ⟨n, Nat.lt_succ_self n, hn⟩
    · rintro ⟨i, hin, hi⟩
      rcases Nat.lt_succ_iff_lt_or_eq.1 hin with hlt | heq
      · exact .inl ⟨i, hlt, hi⟩
      · exact .inr (heq ▸ hi)

theorem mem_trace_iff {t : Nat} {h : Happening} :
    (t, h) ∈ trace r.lifetimes {} r.events ↔ ∃ i, r.Happens i h ∧ r.timeAt i = t := by
  have htake := mem_trace_take_iff (r := r) (t := t) (h := h) r.events.length
  rw [List.take_length] at htake
  rw [htake]
  constructor
  · rintro ⟨i, -, hi⟩
    exact ⟨i, hi⟩
  · rintro ⟨i, hi, ht⟩
    exact ⟨i, lt_length_of_happens hi, hi, ht⟩

end Run

/-! ## One position -/

/-- A sequence that comes to have a value at some point has had it since its last
    change. -/
theorem last_change {α : Type} {f : Nat → α} {x : α} (hfirst : f 0 ≠ x) {j : Nat}
    (hnow : f j = x) : ∃ i < j, f i ≠ x ∧ ∀ k, i < k → k ≤ j → f k = x := by
  induction j with
  | zero => exact absurd hnow hfirst
  | succ j ih =>
    by_cases h : f j = x
    · obtain ⟨i, hij, hne, hsince⟩ := ih h
      refine ⟨i, Nat.lt_succ_of_lt hij, hne, fun k hik hkj => ?_⟩
      rcases Nat.le_succ_iff.1 hkj with hle | heq
      · exact hsince k hik hle
      · rw [heq, hnow]
    · refine ⟨j, Nat.lt_succ_self j, h, fun k hjk hkj => ?_⟩
      rw [Nat.le_antisymm hkj hjk, hnow]

namespace Run

variable {r : Run} {i j : Nat}

theorem transition_at (i : Nat) :
    Transition r.lifetimes (r.stateAt i) (r.eventAt i) (r.stateAt (i + 1))
      (step r.lifetimes (r.stateAt i) (r.eventAt i)).2 :=
  step_transition _

theorem timeAt_mono (hij : i ≤ j) : r.timeAt i ≤ r.timeAt j := by
  induction hij with
  | refl => exact Nat.le_refl _
  | @step j _ ih => exact Nat.le_trans ih (r.transition_at j).now_le

/-! ## Lookups are numbered -/

theorem started_mono (hij : i ≤ j) (organization : String) :
    (r.stateAt i).started organization ≤ (r.stateAt j).started organization := by
  induction hij with
  | refl => exact Nat.le_refl _
  | @step j _ ih =>
    rcases (r.transition_at j).startedChange organization with hsame | ⟨-, hnext⟩
    · exact Nat.le_trans ih (Nat.le_of_eq hsame.symm)
    · exact Nat.le_trans ih (Nat.le_of_lt (hnext ▸ Nat.lt_succ_self _))

theorem Starts.number_eq {ticket : Ticket} (h : r.Starts i ticket) :
    ticket.number = (r.stateAt i).started ticket.organization := by
  obtain ⟨caller, hasked⟩ := h
  obtain ⟨-, -, -, hticket, -⟩ := (r.transition_at i).of_asked hasked
  exact congrArg Ticket.number hticket

theorem Starts.number_lt {ticket : Ticket} (h : r.Starts i ticket) (hij : i < j) :
    ticket.number < (r.stateAt j).started ticket.organization := by
  have hnumber := h.number_eq
  obtain ⟨caller, hasked⟩ := h
  obtain ⟨-, -, -, -, hstate⟩ := (r.transition_at i).of_asked hasked
  have hnext : (r.stateAt (i + 1)).started ticket.organization = ticket.number + 1 := by
    rw [hstate, hnumber]
    exact update_self _ _ _
  have hmono := r.started_mono (i := i + 1) hij ticket.organization
  omega

/-- The numbers below the count are those of the lookups that were started. -/
theorem started_iff {ticket : Ticket} :
    ticket.number < (r.stateAt j).started ticket.organization ↔ ∃ i < j, r.Starts i ticket := by
  constructor
  · intro h
    -- by induction on the position: the last number was given out by the last event or before
    induction j with
    | zero => exact absurd h (Nat.not_lt_zero _)
    | succ j ih =>
      rcases (r.transition_at j).startedChange ticket.organization with
        hsame | ⟨⟨caller, hasked⟩, hnext⟩
      · rw [hsame] at h
        obtain ⟨i, hij, hstarts⟩ := ih h
        exact ⟨i, Nat.lt_succ_of_lt hij, hstarts⟩
      · rw [hnext] at h
        rcases Nat.lt_succ_iff_lt_or_eq.1 h with hlt | heq
        · obtain ⟨i, hij, hstarts⟩ := ih hlt
          exact ⟨i, Nat.lt_succ_of_lt hij, hstarts⟩
        · have hticket : ticket = (r.stateAt j).nextTicket ticket.organization := by
            rw [nextTicket, ← heq]
          exact ⟨j, Nat.lt_succ_self j, caller, hticket ▸ hasked⟩
  · rintro ⟨i, hij, hstarts⟩
    exact hstarts.number_lt hij

theorem Starts.unique {ticket : Ticket} (hi : r.Starts i ticket) (hj : r.Starts j ticket) :
    i = j := by
  rcases Nat.lt_trichotomy i j with hlt | heq | hlt
  · exact absurd hj.number_eq (Nat.ne_of_lt (hi.number_lt hlt))
  · exact heq
  · exact absurd hi.number_eq (Nat.ne_of_lt (hj.number_lt hlt))

/-! ## Answers -/

theorem answers_mono {ticket : Ticket} {a : Answer} (hij : i ≤ j)
    (h : (r.stateAt i).answers ticket = some a) : (r.stateAt j).answers ticket = some a := by
  induction hij with
  | refl => exact h
  | @step j _ ih =>
    rcases (r.transition_at j).answersChange ticket with hsame | ⟨b, -, -, hopen, -⟩
    · rw [hsame, ih]
    · rw [hopen] at ih
      cases ih

/-- The answer of a lookup is what the source answered first. -/
theorem exists_answers {ticket : Ticket} {a : Answer}
    (h : (r.stateAt j).answers ticket = some a) : ∃ i < j, r.Answers i ticket a := by
  obtain ⟨i, hij, hne, hsince⟩ := last_change
    (f := fun k => (r.stateAt k).answers ticket) (by simp [stateAt]) h
  have hnext := hsince (i + 1) (Nat.lt_succ_self i) hij
  rcases (r.transition_at i).answersChange ticket with hsame | ⟨b, hevent, hstarted, hopen, hb⟩
  · exact absurd (hsame ▸ hnext) hne
  · have hba : b = a := Option.some.inj (hb.symm.trans hnext)
    subst hba
    refine ⟨i, hij, hevent, started_iff.1 hstarted, fun k m b' hkm hmi hk hm => ?_⟩
    have hm' : ∃ b'', (r.stateAt (m + 1)).answers ticket = some b'' := by
      have htransition := r.transition_at m
      rw [hm] at htransition
      cases hopen' : (r.stateAt m).answers ticket with
      | none => exact ⟨b', htransition.answered_of_answer (hk.number_lt hkm) hopen'⟩
      | some b'' => exact ⟨b'', answers_mono (Nat.le_succ m) hopen'⟩
    obtain ⟨b'', hb''⟩ := hm'
    rw [answers_mono hmi hb''] at hopen
    cases hopen

theorem answered_iff {ticket : Ticket} {a : Answer} :
    (r.stateAt j).answers ticket = some a ↔ ∃ i < j, r.Answers i ticket a := by
  refine ⟨exists_answers, ?_⟩
  rintro ⟨i, hij, hanswers⟩
  obtain ⟨k, hki, hstarts⟩ := hanswers.started
  have hopen : (r.stateAt i).answers ticket = none := by
    cases hanswered : (r.stateAt i).answers ticket with
    | none => rfl
    | some b =>
      obtain ⟨m, hmi, hm⟩ := exists_answers hanswered
      obtain ⟨k', hk'm, hk'⟩ := hm.started
      exact absurd hm.event (hanswers.first k' m b hk'm hmi hk')
  have htransition := r.transition_at i
  rw [hanswers.event] at htransition
  exact answers_mono hij (htransition.answered_of_answer (hstarts.number_lt hki) hopen)

end Run

end BlockMail.Guard
