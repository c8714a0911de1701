import BlockMail.Proofs.Guard.Run

/-! # The past of a state of the guard

What the guard's memory says at some position was put there by an event at an
earlier one:

- a pending slot names the latest lookup of its organization, and has been pending
  since that lookup was started (`pending_since`);
- a stored decision is the answer of the latest lookup, put there when the first of
  its waiters went on, at the time it is stored with (`ready_since`);
- a waiting caller has waited on the same lookup since its check began
  (`waits_since`).
-/

namespace BlockMail.Guard.Run

open State

variable {r : Run} {i j : Nat} {organization : String} {ticket : Ticket} {caller : Nat}

/-! ## Starting and settling -/

theorem Starts.slotAt_succ (h : r.Starts i ticket) :
    r.slotAt (i + 1) ticket.organization = some (.pending ticket) := by
  obtain ⟨caller, hasked⟩ := h
  obtain ⟨-, -, -, hticket, hstate⟩ := (r.transition_at i).of_asked hasked
  unfold slotAt
  rw [hstate]
  exact (update_self _ _ _).trans (congrArg (some ∘ Slot.pending) hticket.symm)

theorem Starts.not_pending (h : r.Starts i ticket) (other : Ticket) :
    r.slotAt i ticket.organization ≠ some (.pending other) := by
  intro hpending
  obtain ⟨caller, hasked⟩ := h
  obtain ⟨-, -, hstale, -, -⟩ := (r.transition_at i).of_asked hasked
  rw [sweep_eq_pending_iff.2 hpending] at hstale
  cases hstale

theorem Starts.expired (h : r.Starts i ticket) {d : Decision} {storedAt : Nat}
    (hready : r.slotAt i ticket.organization = some (.ready d storedAt)) :
    storedAt + r.lifetimes.of d ≤ r.timeAt i := by
  obtain ⟨caller, hasked⟩ := h
  obtain ⟨-, -, hstale, -, -⟩ := (r.transition_at i).of_asked hasked
  rcases Nat.lt_or_ge (r.timeAt i) (storedAt + r.lifetimes.of d) with hlt | hge
  · rw [sweep_eq_ready_iff.2 ⟨hready, hlt⟩] at hstale
    cases hstale
  · exact hge

/-! ## Since when -/

/-- A pending slot has been pending since its lookup was started. -/
theorem pending_since (h : r.slotAt j organization = some (.pending ticket)) :
    ticket.organization = organization ∧ ∃ i < j, r.Starts i ticket
      ∧ ∀ k, i < k → k ≤ j → r.slotAt k organization = some (.pending ticket) := by
  obtain ⟨i, hij, hne, hsince⟩ := last_change
    (f := fun k => r.slotAt k organization) (by simp [slotAt, stateAt]) h
  have hnext := hsince (i + 1) (Nat.lt_succ_self i) hij
  cases (r.transition_at i).slotChange organization with
  | kept hkept => exact absurd (hkept.symm.trans hnext) hne
  | swept _ _ hgone => cases hgone.symm.trans hnext
  | @started caller hasked hpending =>
    cases hpending.symm.trans hnext
    exact ⟨rfl, i, hij, ⟨caller, hasked⟩, hsince⟩
  | @settled _ _ a _ _ _ _ _ hsettled =>
    cases a with
    | none => cases hsettled.symm.trans hnext
    | some d => cases hsettled.symm.trans hnext
  | forgotten _ hgone => cases hgone.symm.trans hnext

/-- A decision in a slot has been there since the first waiter of its lookup went on. -/
theorem ready_since {d : Decision} {storedAt : Nat}
    (h : r.slotAt j organization = some (.ready d storedAt)) :
    ∃ ticket m, ticket.organization = organization ∧ r.Stored m j ticket d
      ∧ r.timeAt m = storedAt := by
  obtain ⟨m, hmj, hne, hsince⟩ := last_change
    (f := fun k => r.slotAt k organization) (by simp [slotAt, stateAt]) h
  have hnext := hsince (m + 1) (Nat.lt_succ_self m) hmj
  cases (r.transition_at m).slotChange organization with
  | kept hkept => exact absurd (hkept.symm.trans hnext) hne
  | swept _ _ hgone => cases hgone.symm.trans hnext
  | started _ hpending => cases hpending.symm.trans hnext
  | @settled caller ticket a hresume hwaits hanswered horganization hpending hsettled =>
    cases a with
    | none => cases hsettled.symm.trans hnext
    | some d =>
      cases hsettled.symm.trans hnext
      subst horganization
      have hsettles : r.Settles m ticket (some d) :=
        ⟨⟨caller, hresume, hwaits⟩, exists_answers hanswered, hpending⟩
      exact ⟨ticket, m, rfl, ⟨hmj, hsettles, hsince⟩, rfl⟩
  | forgotten _ hgone => cases hgone.symm.trans hnext

/-- A waiting caller has waited on the same lookup since it asked for it or joined it. -/
theorem waits_since (h : r.WaitsOn j caller ticket) :
    ∃ i < j, r.Idle i caller
      ∧ (r.Happens i (.asked caller ticket) ∨ r.Happens i (.joined caller ticket))
      ∧ ∀ k, i < k → k ≤ j → r.WaitsOn k caller ticket := by
  obtain ⟨i, hij, hne, hsince⟩ := last_change
    (f := fun k => (r.stateAt k).waiter? caller) (by simp [waiter?, stateAt]) h
  have hnext := hsince (i + 1) (Nat.lt_succ_self i) hij
  rcases (r.transition_at i).waiterChange caller with hsame | ⟨other, hbegins, hwaits⟩ | hgone
  · exact absurd (hsame.symm.trans hnext) hne
  · cases hwaits.symm.trans hnext
    refine ⟨i, hij, ?_, hbegins, hsince⟩
    rcases hbegins with hasked | hjoined
    · exact ((r.transition_at i).of_asked hasked).2.1
    · obtain ⟨-, -, hidle, -⟩ := (r.transition_at i).of_joined hjoined
      exact hidle
  · cases hgone.symm.trans hnext

/-! ## The latest lookup -/

theorem latest_of_pending (h : r.slotAt j organization = some (.pending ticket)) :
    r.Latest j ticket := by
  obtain ⟨rfl, i, hij, hstarts, hsince⟩ := pending_since h
  refine ⟨i, hij, hstarts, fun k number hik hkj hk => ?_⟩
  exact hk.not_pending ticket (hsince k hik (Nat.le_of_lt hkj))

theorem Stored.latest {m : Nat} {d : Decision} (h : r.Stored m j ticket d) :
    r.Latest j ticket := by
  obtain ⟨i, him, hstarts, hlast⟩ := latest_of_pending h.settles.registered
  refine ⟨i, Nat.lt_trans him h.before, hstarts, fun k number hik hkj hk => ?_⟩
  rcases Nat.lt_trichotomy k m with hlt | heq | hgt
  · exact hlast k number hik hlt hk
  · exact hk.not_pending ticket (heq ▸ h.settles.registered)
  · have hready := h.kept (k + 1) (Nat.lt_succ_of_lt hgt) hkj
    cases hk.slotAt_succ.symm.trans hready

/-! ## Checks and their returns -/

theorem check_of_returned {d : Decision} {origin : Origin}
    (h : r.Happens j (.returned caller organization d origin)) :
    ∃ i, r.CheckReturns i j caller organization d origin := by
  cases origin with
  | stored =>
    obtain ⟨hevent, hidle, -, -⟩ := (r.transition_at j).of_returned_stored h
    exact ⟨j, hevent, hidle, Nat.le_refl j, fun k hjk hkj => absurd hjk (Nat.not_lt.2 hkj), h⟩
  | lookedUp ticket =>
    obtain ⟨-, rfl, hwaits, -⟩ := (r.transition_at j).of_returned_lookedUp h
    obtain ⟨i, hij, hidle, hbegins, hsince⟩ := waits_since hwaits
    have hevent : r.eventAt i = .check caller ticket.organization := by
      rcases hbegins with hasked | hjoined
      · exact ((r.transition_at i).of_asked hasked).1
      · obtain ⟨asked, hevent, -, hpending⟩ := (r.transition_at i).of_joined hjoined
        rw [hevent, (pending_since hpending).1]
    refine ⟨i, hevent, hidle, Nat.le_of_lt hij, fun k hik hkj hk => ?_, h⟩
    cases hk.symm.trans (hsince k hik hkj)

/-- A check that returns the answer of a lookup asked for it or joined it in the
    beginning, and has waited on it since. -/
theorem CheckReturns.waitsOn {d : Decision}
    (h : r.CheckReturns i j caller organization d (.lookedUp ticket)) :
    ticket.organization = organization ∧ i < j
      ∧ (r.Happens i (.asked caller ticket) ∨ r.Happens i (.joined caller ticket))
      ∧ ∀ k, i < k → k ≤ j → r.WaitsOn k caller ticket := by
  obtain ⟨hevent, rfl, hwaits, -⟩ := (r.transition_at j).of_returned_lookedUp h.returns
  obtain ⟨i', hij', hidle, hbegins, hsince⟩ := waits_since hwaits
  -- Both `i` and `i'` are the last position up to `j` at which the caller is idle.
  have hle : i' ≤ i := Nat.not_lt.1 fun hlt => h.waits i' hlt (Nat.le_of_lt hij') hidle
  have hge : i ≤ i' := Nat.not_lt.1 fun hlt => by
    cases h.idle.symm.trans (hsince i hlt h.ordered)
  have heq : i = i' := Nat.le_antisymm hge hle
  subst heq
  exact ⟨rfl, hij', hbegins, hsince⟩

theorem CheckReturns.answered {d : Decision}
    (h : r.CheckReturns i j caller organization d (.lookedUp ticket)) :
    ∃ a, (∃ k < j, r.Answers k ticket a) ∧ d = a.getD .allowed := by
  obtain ⟨-, -, -, a, hanswered, hd⟩ := (r.transition_at j).of_returned_lookedUp h.returns
  exact ⟨a, exists_answers hanswered, hd⟩

theorem CheckReturns.stored {d : Decision}
    (h : r.CheckReturns i j caller organization d .stored) :
    i = j ∧ ∃ ticket m, ticket.organization = organization ∧ r.Stored m j ticket d
      ∧ r.timeAt j < r.timeAt m + r.lifetimes.of d := by
  obtain ⟨-, hidle, -, storedAt, hready, hfresh⟩ :=
    (r.transition_at j).of_returned_stored h.returns
  have heq : i = j := by
    rcases Nat.lt_or_eq_of_le h.ordered with hlt | heq
    · exact absurd hidle (h.waits j hlt (Nat.le_refl j))
    · exact heq
  obtain ⟨ticket, m, horganization, hstored, htime⟩ := ready_since hready
  exact ⟨heq, ticket, m, horganization, hstored, htime ▸ hfresh⟩

end BlockMail.Guard.Run
