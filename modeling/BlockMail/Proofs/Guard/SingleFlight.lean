import BlockMail.Proofs.Guard.History

/-! # One lookup at a time

As long as an organization is not forgotten, its lookups follow each other: the next
one is started only when the one before it has been answered and settled, and if it
brought a decision, only when that decision has expired.  In between every check joins
the lookup that is under way or is told the stored decision.

`pending_until_settled` and `ready_until_expired` are the two halves of a lookup's
reign over the slot; both are inductions over the positions of the run.
-/

namespace BlockMail.Guard.Run

open State

variable {r : Run} {i j k m : Nat} {organization : String} {ticket : Ticket} {caller : Nat}
  {d : Decision}

theorem Forgets.mem_events {n : Nat} (h : r.Forgets n organization) :
    .invalidate organization ∈ r.events ∨ .clear ∈ r.events := by
  unfold Forgets eventAt at h
  cases hevent : r.events[n]? with
  | none =>
    rw [hevent] at h
    rcases h with h | h <;> cases h
  | some e =>
    rw [hevent, Option.getD_some] at h
    have hmem := List.mem_of_getElem? hevent
    rcases h with rfl | rfl
    · exact .inl hmem
    · exact .inr hmem

theorem Settles.slotAt_succ {a : Answer} (h : r.Settles m ticket a) :
    r.slotAt (m + 1) ticket.organization = (r.stateAt m).settledSlot a := by
  obtain ⟨caller, hevent, hwaits⟩ := h.resumes
  have htransition := r.transition_at m
  rw [hevent] at htransition
  exact htransition.slot_of_resume hwaits (answered_iff.2 h.answered) h.registered

theorem pending_until_settled (hkeep : ∀ n, ¬ r.Forgets n ticket.organization)
    (hstarts : r.Starts i ticket) (hij : i < j)
    (hopen : ∀ n a, n < j → ¬ r.Settles n ticket a) :
    r.slotAt j ticket.organization = some (.pending ticket) := by
  induction hij with
  | refl => exact hstarts.slotAt_succ
  | @step j _ ih =>
    have hpending := ih fun n a hnj => hopen n a (Nat.lt_succ_of_lt hnj)
    cases (r.transition_at j).slotChange ticket.organization with
    | kept hkept => exact hkept.trans hpending
    | swept hready => cases hready.symm.trans hpending
    | @started caller hasked =>
      have hagain : r.Starts j ((r.stateAt j).nextTicket ticket.organization) := ⟨caller, hasked⟩
      exact absurd hpending (hagain.not_pending ticket)
    | @settled caller other a hresume hwaits hanswered _ hregistered =>
      cases hregistered.symm.trans hpending
      have hsettles : r.Settles j ticket a :=
        ⟨⟨caller, hresume, hwaits⟩, exists_answers hanswered, hregistered⟩
      exact absurd hsettles (hopen j a (Nat.lt_succ_self j))
    | forgotten hforget => exact absurd hforget (hkeep j)

theorem ready_until_expired (hkeep : ∀ n, ¬ r.Forgets n ticket.organization)
    (hsettles : r.Settles m ticket (some d)) (hmj : m < j) :
    r.slotAt j ticket.organization = some (.ready d (r.timeAt m))
      ∨ r.timeAt m + r.lifetimes.of d ≤ r.timeAt j := by
  -- Once it has expired nothing is left to prove, since time does not go back.
  induction hmj with
  | refl => exact .inl hsettles.slotAt_succ
  | @step j _ ih =>
    have hlater : r.timeAt j ≤ r.timeAt (j + 1) := timeAt_mono (Nat.le_succ j)
    rcases ih with hready | hexpired
    · cases (r.transition_at j).slotChange ticket.organization with
      | kept hkept => exact .inl (hkept.trans hready)
      | swept hready' hexpired =>
        cases hready'.symm.trans hready
        exact .inr (Nat.le_trans hexpired hlater)
      | @started caller hasked =>
        have hagain : r.Starts j ((r.stateAt j).nextTicket ticket.organization) := ⟨caller, hasked⟩
        exact .inr (Nat.le_trans (hagain.expired hready) hlater)
      | settled _ _ _ _ hregistered => cases hregistered.symm.trans hready
      | forgotten hforget => exact absurd hforget (hkeep j)
    · exact .inr (Nat.le_trans hexpired hlater)

/-- Between two lookups of an organization the first is answered and then settled. -/
theorem settled_before_next (hkeep : ∀ n, ¬ r.Forgets n ticket.organization)
    (hi : r.Starts i ticket) {number : Nat} (hj : r.Starts j ⟨ticket.organization, number⟩)
    (hij : i < j) :
    ∃ k m a, i < k ∧ k < m ∧ m < j ∧ r.Answers k ticket a ∧ r.Settles m ticket a := by
  have hsettled : ∃ m a, m < j ∧ r.Settles m ticket a := by
    refine Classical.byContradiction fun hnone => hj.not_pending ticket ?_
    exact pending_until_settled hkeep hi hij fun m a hmj hm => hnone ⟨m, a, hmj, hm⟩
  obtain ⟨m, a, hmj, hsettles⟩ := hsettled
  obtain ⟨k, hkm, hanswers⟩ := hsettles.answered
  obtain ⟨i', hi'k, hi'⟩ := hanswers.started
  exact ⟨k, m, a, hi.unique hi' ▸ hi'k, hkm, hmj, hanswers, hsettles⟩

theorem expired_before_next (hkeep : ∀ n, ¬ r.Forgets n ticket.organization)
    (hsettles : r.Settles m ticket (some d)) {number : Nat}
    (hj : r.Starts j ⟨ticket.organization, number⟩) (hmj : m < j) :
    r.timeAt m + r.lifetimes.of d ≤ r.timeAt j := by
  rcases ready_until_expired hkeep hsettles hmj with hready | hexpired
  · exact hj.expired hready
  · exact hexpired

theorem joined_of_pending (hevent : r.eventAt k = .check caller organization)
    (hidle : r.Idle k caller) (hpending : r.slotAt k organization = some (.pending ticket)) :
    r.Happens k (.joined caller ticket) := by
  unfold Happens
  rw [hevent]
  simp only [step, check_of_pending hidle hpending, List.mem_singleton]

theorem asked_unique {other : Nat} (hi : r.Happens i (.asked caller ticket))
    (hk : r.Happens k (.asked other ticket)) : i = k ∧ caller = other := by
  have hstarts : r.Starts i ticket := ⟨caller, hi⟩
  cases hstarts.unique ⟨other, hk⟩
  have hcaller := ((r.transition_at i).of_asked hi).1
  cases hcaller.symm.trans ((r.transition_at i).of_asked hk).1
  exact ⟨rfl, rfl⟩

theorem Starts.keeps_slot (h : r.Starts k ticket) (other : String) {slot : Slot}
    (hslot : r.slotAt k other = some slot)
    (husable : ∀ d storedAt, slot = .ready d storedAt → r.timeAt k < storedAt + r.lifetimes.of d) :
    r.slotAt (k + 1) other = some slot := by
  obtain ⟨caller, hasked⟩ := h
  have hevent := ((r.transition_at k).of_asked hasked).1
  -- what the event can do to the other slot: it is a check, so it settles and forgets nothing
  cases (r.transition_at k).slotChange other with
  | kept hkept => exact hkept.trans hslot
  | swept hready hexpired =>
    cases hready.symm.trans hslot
    exact absurd (husable _ _ rfl) (Nat.not_lt.2 hexpired)
  | @started caller' hasked' =>
    have hstarts : r.Starts k ((r.stateAt k).nextTicket other) := ⟨caller', hasked'⟩
    cases slot with
    | ready d storedAt =>
      exact absurd (husable d storedAt rfl) (Nat.not_lt.2 (hstarts.expired hslot))
    | pending waiting => exact absurd hslot (hstarts.not_pending waiting)
  | settled hresume => cases hevent.symm.trans hresume
  | forgotten hforget =>
    rcases hforget with hforget | hforget <;> cases hevent.symm.trans hforget

/-- **Single flight.**  While an organization is not forgotten, a lookup is answered and
    settled, and its decision has expired, before the next one is started; until it is
    settled every check joins it.  The source is asked once for a lookup, and no sweep
    takes a pending lookup or a decision that can still be used. -/
theorem single_flight (r : Run) (organization : String)
    (hinvalidate : .invalidate organization ∉ r.events) (hclear : .clear ∉ r.events) :
    (∀ i j first second, r.Starts i ⟨organization, first⟩ → r.Starts j ⟨organization, second⟩ →
        i < j → ∃ k m a, i < k ∧ k < m ∧ m < j
          ∧ r.Answers k ⟨organization, first⟩ a ∧ r.Settles m ⟨organization, first⟩ a
          ∧ (a = none ∨ ∃ d, a = some d ∧ r.timeAt m + r.lifetimes.of d ≤ r.timeAt j))
    ∧ (∀ i k number caller, r.Starts i ⟨organization, number⟩ → i < k →
        r.eventAt k = .check caller organization → r.Idle k caller →
        (∀ m a, m < k → ¬ r.Settles m ⟨organization, number⟩ a) →
        r.Happens k (.joined caller ⟨organization, number⟩))
    ∧ (∀ i k caller other ticket, r.Happens i (.asked caller ticket) →
        r.Happens k (.asked other ticket) → i = k ∧ caller = other)
    ∧ ∀ k ticket other, r.Starts k ticket →
        (∀ waiting, r.slotAt k other = some (.pending waiting) →
          r.slotAt (k + 1) other = some (.pending waiting))
        ∧ ∀ d storedAt, r.slotAt k other = some (.ready d storedAt) →
          r.timeAt k < storedAt + r.lifetimes.of d →
          r.slotAt (k + 1) other = some (.ready d storedAt) := by
  have hkeep : ∀ n, ¬ r.Forgets n organization := fun n hn =>
    hn.mem_events.elim hinvalidate hclear
  refine ⟨?_, ?_, fun i k caller other ticket => asked_unique, ?_⟩
  · intro i j first second hi hj hij
    obtain ⟨k, m, a, hik, hkm, hmj, hanswers, hsettles⟩ := settled_before_next hkeep hi hj hij
    refine ⟨k, m, a, hik, hkm, hmj, hanswers, hsettles, ?_⟩
    cases a with
    | none => exact .inl rfl
    | some d => exact .inr ⟨d, rfl, expired_before_next hkeep hsettles hj hmj⟩
  · intro i k number caller hi hik hevent hidle hopen
    exact joined_of_pending hevent hidle (pending_until_settled hkeep hi hik hopen)
  · intro k ticket other hstarts
    constructor
    · intro waiting hpending
      exact hstarts.keeps_slot other hpending (fun d storedAt h => by cases h)
    · intro d storedAt hready hfresh
      exact hstarts.keeps_slot other hready (fun d' storedAt' h => by cases h; exact hfresh)

/-- The caller that made the source be asked is cancelled, another one settles the
    lookup, and the next lookup is started when the decision expires. -/
def handedOver : Run where
  lifetimes := { allowed := 60, blocked := 15 }
  events :=
    [ .check 0 "studio", .check 1 "studio", .cancel 0, .answer ⟨"studio", 0⟩ (some .allowed),
      .wait 5, .resume 1, .wait 59, .check 2 "studio", .wait 1, .check 3 "studio" ]

theorem single_flight_handedOver :
    handedOver.Happens 7 (.returned 2 "studio" .allowed .stored)
      ∧ ∃ k m a, 0 < k ∧ k < m ∧ m < 9
        ∧ handedOver.Answers k ⟨"studio", 0⟩ a ∧ handedOver.Settles m ⟨"studio", 0⟩ a
        ∧ (a = none ∨ ∃ d, a = some d
          ∧ handedOver.timeAt m + handedOver.lifetimes.of d ≤ handedOver.timeAt 9) := by
  refine ⟨by decide, ?_⟩
  exact (single_flight handedOver "studio" (by decide) (by decide)).1 0 9 0 1
    ⟨0, by decide⟩ ⟨3, by decide⟩ (by decide)

end BlockMail.Guard.Run
