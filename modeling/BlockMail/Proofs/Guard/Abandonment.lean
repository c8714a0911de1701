import BlockMail.Proofs.Guard.Isolation
import BlockMail.Proofs.Guard.SingleFlight

/-! # Lookups that nobody waits for

A registered lookup is settled by a caller that waits on it and goes on.  When all of its callers
are cancelled before that, the lookup is abandoned: it stays registered, since sweeping passes
pending lookups over, and whoever asks about the organization next joins it.

There is no other way to come by a pending slot that nobody waits for (`waited_or_abandoned`).  So
there is none as long as the last caller to wait on a lookup is never cancelled (`waited`), and
then a check that finds nobody waiting and no decision always makes the source be asked.
-/

namespace BlockMail.Guard

open State

variable {lifetimes : Lifetimes} {s s' : State} {e : Event} {hs : List Happening}

theorem Transition.waits_or_leaves (h : Transition lifetimes s e s' hs) {caller : Nat} {w : Waiter}
    (hwaits : s.waiter? caller = some w) :
    s'.waiter? caller = some w ∨ e = .cancel caller
      ∨ e = .resume caller ∧ ∃ a, s.answers w.ticket = some a := by
  have hjoin : ∀ other ticket, s.waiter? other = none →
      (joinOn s other ticket).waiter? caller = some w := by
    intro other ticket hidle
    have hne : caller ≠ other := fun heq => by
      cases (heq ▸ hidle).symm.trans hwaits
    rw [waiter?_joinOn hidle, if_neg hne, hwaits]
  have hdismiss : ∀ other, caller ≠ other → (s.dismiss other).waiter? caller = some w := by
    intro other hne
    rw [waiter?_dismiss, if_neg hne, hwaits]
  cases h with
  | join hidle => exact .inl (hjoin _ _ hidle)
  | start hidle => exact .inl (hjoin _ _ hidle)
  | @resume other ticket a hresumes hanswered =>
    by_cases hne : caller = other
    · subst hne
      cases hwaits.symm.trans hresumes
      exact .inr (.inr ⟨rfl, a, hanswered⟩)
    · left
      rw [settle_eq]
      exact hdismiss other hne
  | @cancel other =>
    by_cases hne : caller = other
    · exact .inr (.inl (hne ▸ rfl))
    · exact .inl (hdismiss other hne)
  | _ => exact .inl hwaits

end BlockMail.Guard

namespace BlockMail.Guard.Run

open State

variable {r : Run} {i j k m : Nat} {organization : String} {ticket : Ticket} {caller : Nat}

/-! ## Waiting and leaving -/

/-- A caller begins to wait on a lookup. -/
def Begins (r : Run) (k caller : Nat) (ticket : Ticket) : Prop :=
  r.Happens k (.asked caller ticket) ∨ r.Happens k (.joined caller ticket)

/-- A caller is cancelled that waits on a lookup. -/
def Cancels (r : Run) (m caller : Nat) (ticket : Ticket) : Prop :=
  r.eventAt m = .cancel caller ∧ r.WaitsOn m caller ticket

/-- Whoever has begun to wait on the lookup was cancelled. -/
def Abandoned (r : Run) (j : Nat) (ticket : Ticket) : Prop :=
  ∀ k caller, k < j → r.Begins k caller ticket → ∃ m, k < m ∧ m < j ∧ r.Cancels m caller ticket

/-- Whoever is cancelled leaves another caller behind that waits on the same lookup. -/
def LeavesAnother (r : Run) : Prop :=
  ∀ m caller ticket, r.Cancels m caller ticket → ∃ other, other ≠ caller ∧ r.WaitsOn m other ticket

theorem Begins.waitsOn_succ (h : r.Begins k caller ticket) : r.WaitsOn (k + 1) caller ticket := by
  have hjoin : ∀ {s : State} {ticket : Ticket}, s.waiter? caller = none →
      (joinOn s caller ticket).waiter? caller = some ⟨caller, ticket⟩ := fun hidle => by
    rw [waiter?_joinOn hidle, if_pos rfl]
  unfold WaitsOn
  rcases h with hasked | hjoined
  · obtain ⟨-, hidle, -, hticket, hstate⟩ := (r.transition_at k).of_asked hasked
    rw [hstate]
    exact (hjoin hidle).trans (by rw [← hticket])
  · obtain ⟨asked, hevent, hidle, hpending⟩ := (r.transition_at k).of_joined hjoined
    rw [stateAt, hevent]
    show ((check r.lifetimes (r.stateAt k) caller asked).1).waiter? caller = _
    rw [check_of_pending hidle hpending]
    exact hjoin hidle

theorem WaitsOn.succ_of_pending (h : r.WaitsOn m caller ticket)
    (hpending : r.slotAt m ticket.organization = some (.pending ticket))
    (hpending' : r.slotAt (m + 1) ticket.organization = some (.pending ticket)) :
    r.WaitsOn (m + 1) caller ticket ∨ r.Cancels m caller ticket := by
  rcases (r.transition_at m).waits_or_leaves h with hwaits | hcancel | ⟨hresume, a, hanswered⟩
  · exact .inl hwaits
  · exact .inr ⟨hcancel, h⟩
  · have htransition := r.transition_at m
    rw [hresume] at htransition
    have hsettled := htransition.slot_of_resume h hanswered hpending
    cases a with
    | none => cases hsettled.symm.trans hpending'
    | some d => cases hsettled.symm.trans hpending'

theorem waitsOn_or_cancels (h : r.Begins k caller ticket) (hkj : k < j)
    (hpending : ∀ m, k < m → m ≤ j → r.slotAt m ticket.organization = some (.pending ticket)) :
    r.WaitsOn j caller ticket ∨ ∃ m, k < m ∧ m < j ∧ r.Cancels m caller ticket := by
  induction hkj with
  | refl => exact .inl h.waitsOn_succ
  | @step j hkj ih =>
    rcases ih fun m hkm hmj => hpending m hkm (Nat.le_succ_of_le hmj) with
      hwaits | ⟨m, hkm, hmj, hcancels⟩
    · rcases hwaits.succ_of_pending (hpending j hkj (Nat.le_succ j))
        (hpending (j + 1) (Nat.lt_succ_of_lt hkj) (Nat.le_refl _)) with hstill | hcancels
      · exact .inl hstill
      · exact .inr ⟨j, hkj, Nat.lt_succ_self j, hcancels⟩
    · exact .inr ⟨m, hkm, Nat.lt_succ_of_lt hmj, hcancels⟩

/-! ## Pending slots -/

theorem pending_since_begins (h : r.slotAt j organization = some (.pending ticket))
    (hbegins : r.Begins k caller ticket) :
    ∀ m, k < m → m ≤ j → r.slotAt m ticket.organization = some (.pending ticket) := by
  obtain ⟨rfl, i, hij, hstarts, hsince⟩ := pending_since h
  have hik : i ≤ k := by
    rcases hbegins with hasked | hjoined
    · exact Nat.le_of_eq (hstarts.unique ⟨caller, hasked⟩)
    · obtain ⟨asked, -, -, hpending⟩ := (r.transition_at k).of_joined hjoined
      obtain ⟨-, i', hi'k, hstarts', -⟩ := pending_since hpending
      exact Nat.le_of_lt (hstarts.unique hstarts' ▸ hi'k)
  exact fun m hkm hmj => hsince m (Nat.lt_of_le_of_lt hik hkm) hmj

/-- Where a lookup is pending somebody waits on it, or everybody who did was cancelled. -/
theorem waited_or_abandoned (h : r.slotAt j organization = some (.pending ticket)) :
    (∃ caller, r.WaitsOn j caller ticket) ∨ r.Abandoned j ticket := by
  by_cases hwaited : ∃ caller, r.WaitsOn j caller ticket
  · exact .inl hwaited
  · refine .inr fun k caller hkj hbegins => ?_
    rcases waitsOn_or_cancels hbegins hkj (pending_since_begins h hbegins) with hwaits | hcancels
    · exact absurd ⟨caller, hwaits⟩ hwaited
    · exact hcancels

theorem LeavesAnother.waited (hleaves : r.LeavesAnother)
    (h : r.slotAt j organization = some (.pending ticket)) :
    ∃ caller, r.WaitsOn j caller ticket := by
  -- by induction on the position: the waiting caller stays, or it leaves another one behind
  induction j generalizing organization with
  | zero => cases h
  | succ j ih =>
    cases (r.transition_at j).slotChange organization with
    | kept hkept =>
      have hpending : r.slotAt j organization = some (.pending ticket) := hkept.symm.trans h
      obtain ⟨rfl, -⟩ := pending_since h
      obtain ⟨caller, hwaits⟩ := ih hpending
      rcases hwaits.succ_of_pending hpending h with hstill | hcancels
      · exact ⟨caller, hstill⟩
      · obtain ⟨other, hne, hother⟩ := hleaves j caller ticket hcancels
        rcases hother.succ_of_pending hpending h with hstill | hcancels'
        · exact ⟨other, hstill⟩
        · cases hcancels.1.symm.trans hcancels'.1
          exact absurd rfl hne
    | swept _ _ hgone => cases hgone.symm.trans h
    | @started caller hasked hpending =>
      cases hpending.symm.trans h
      exact ⟨caller, Begins.waitsOn_succ (.inl hasked)⟩
    | @settled _ _ a _ _ _ _ _ hsettled =>
      cases a with
      | none => cases hsettled.symm.trans h
      | some d => cases hsettled.symm.trans h
    | forgotten _ hgone => cases hgone.symm.trans h

/-- A pending lookup stays until a caller that waits on it settles it or it is forgotten. -/
theorem pending_until (h : r.slotAt i organization = some (.pending ticket)) (hij : i ≤ j) :
    r.slotAt j organization = some (.pending ticket)
      ∨ ∃ m, i ≤ m ∧ m < j ∧ ((∃ a, r.Settles m ticket a) ∨ r.Forgets m organization) := by
  induction hij with
  | refl => exact .inl h
  | @step j hij ih =>
    rcases ih with hpending | ⟨m, him, hmj, hends⟩
    · cases (r.transition_at j).slotChange organization with
      | kept hkept => exact .inl (hkept.trans hpending)
      | swept hready => cases hready.symm.trans hpending
      | @started caller hasked =>
        have hstarts : r.Starts j ((r.stateAt j).nextTicket organization) := ⟨caller, hasked⟩
        exact absurd hpending (hstarts.not_pending ticket)
      | @settled caller other a hresume hwaits hanswered hfor hregistered =>
        cases hregistered.symm.trans hpending
        subst hfor
        exact .inr ⟨j, hij, Nat.lt_succ_self j,
          .inl ⟨a, ⟨caller, hresume, hwaits⟩, exists_answers hanswered, hregistered⟩⟩
      | forgotten hforget => exact .inr ⟨j, hij, Nat.lt_succ_self j, .inr hforget⟩
    · exact .inr ⟨m, him, Nat.lt_succ_of_lt hmj, hends⟩

/-! ## Checks where nobody waits -/

theorem asked_or_joined (hevent : r.eventAt i = .check caller organization)
    (hidle : r.Idle i caller)
    (hexpired : ∀ d storedAt, r.slotAt i organization = some (.ready d storedAt) →
      storedAt + r.lifetimes.of d ≤ r.timeAt i) :
    (∃ number, r.Happens i (.asked caller ⟨organization, number⟩))
      ∨ ∃ ticket, r.slotAt i organization = some (.pending ticket)
        ∧ r.Happens i (.joined caller ticket) := by
  cases hsweep : sweep r.lifetimes (r.stateAt i) organization with
  | none =>
    refine .inl ⟨(r.stateAt i).started organization, ?_⟩
    unfold Happens
    rw [hevent]
    simp only [step, check_of_stale hidle hsweep, nextTicket, List.mem_singleton]
  | some slot =>
    cases slot with
    | ready d storedAt =>
      obtain ⟨hready, hfresh⟩ := sweep_eq_ready_iff.mp hsweep
      exact absurd (hexpired d storedAt hready) (Nat.not_le_of_lt hfresh)
    | pending ticket =>
      have hpending := sweep_eq_pending_iff.mp hsweep
      exact .inr ⟨ticket, hpending, joined_of_pending hevent hidle hpending⟩

/-- **Abandoned lookups.**  Somebody waits on a pending lookup, or everybody who has waited on it
    was cancelled; it stays until a caller settles it or it is forgotten.  A check that finds
    nobody waiting and no decision makes the source be asked, unless such an abandoned lookup is
    pending, which it then joins; and that is the only way to be told what others asked when none
    of them waits any more.  None of this comes up while nobody is cancelled who waits alone. -/
theorem abandoned_only_by_cancellation (r : Run) :
    (∀ j organization ticket, r.slotAt j organization = some (.pending ticket) →
        ((∃ caller, r.WaitsOn j caller ticket) ∨ r.Abandoned j ticket)
          ∧ ∀ k, j ≤ k → r.slotAt k organization = some (.pending ticket)
            ∨ ∃ m, j ≤ m ∧ m < k ∧ ((∃ a, r.Settles m ticket a) ∨ r.Forgets m organization))
    ∧ (∀ i caller organization, r.eventAt i = .check caller organization → r.Idle i caller →
        (∀ other number, ¬ r.WaitsOn i other ⟨organization, number⟩) →
        (∀ d storedAt, r.slotAt i organization = some (.ready d storedAt) →
          storedAt + r.lifetimes.of d ≤ r.timeAt i) →
        (∃ number, r.Happens i (.asked caller ⟨organization, number⟩))
          ∨ ∃ number, r.slotAt i organization = some (.pending ⟨organization, number⟩)
            ∧ r.Abandoned i ⟨organization, number⟩
            ∧ r.Happens i (.joined caller ⟨organization, number⟩))
    ∧ (∀ i j caller organization d ticket,
        r.CheckReturns i j caller organization d (.lookedUp ticket) →
        r.Happens i (.asked caller ticket)
          ∨ r.Happens i (.joined caller ticket)
            ∧ ((∃ other, r.WaitsOn i other ticket) ∨ r.Abandoned i ticket))
    ∧ (r.LeavesAnother →
        (∀ j organization ticket, r.slotAt j organization = some (.pending ticket) →
          ∃ caller, r.WaitsOn j caller ticket)
        ∧ ∀ i caller organization, r.eventAt i = .check caller organization → r.Idle i caller →
          (∀ other number, ¬ r.WaitsOn i other ⟨organization, number⟩) →
          (∀ d storedAt, r.slotAt i organization = some (.ready d storedAt) →
            storedAt + r.lifetimes.of d ≤ r.timeAt i) →
          ∃ number, r.Happens i (.asked caller ⟨organization, number⟩)) := by
  refine ⟨fun j organization ticket h => ⟨waited_or_abandoned h, fun k => pending_until h⟩,
    fun i caller organization hevent hidle hnobody hexpired => ?_,
    fun i j caller organization d ticket hreturns => ?_,
    fun hleaves => ⟨fun j organization ticket => hleaves.waited,
      fun i caller organization hevent hidle hnobody hexpired => ?_⟩⟩
  · rcases asked_or_joined hevent hidle hexpired with hasked | ⟨ticket, hpending, hjoined⟩
    · exact .inl hasked
    · obtain ⟨rfl, -⟩ := pending_since hpending
      rcases waited_or_abandoned hpending with ⟨other, hwaits⟩ | habandoned
      · exact absurd hwaits (hnobody other ticket.number)
      · exact .inr ⟨ticket.number, hpending, habandoned, hjoined⟩
  · obtain ⟨-, -, hbegins, -⟩ := hreturns.waitsOn
    rcases hbegins with hasked | hjoined
    · exact .inl hasked
    · obtain ⟨asked, -, -, hpending⟩ := (r.transition_at i).of_joined hjoined
      exact .inr ⟨hjoined, waited_or_abandoned hpending⟩
  · rcases asked_or_joined hevent hidle hexpired with hasked | ⟨ticket, hpending, -⟩
    · exact hasked
    · obtain ⟨rfl, -⟩ := pending_since hpending
      obtain ⟨other, hwaits⟩ := hleaves.waited hpending
      exact absurd hwaits (hnobody other ticket.number)

/-- The only caller of a lookup is cancelled, and an hour later another one is told the answer. -/
def leftAlone : Run where
  events :=
    [ .check 0 "studio", .cancel 0, .wait 3600000, .check 1 "studio",
      .answer ⟨"studio", 0⟩ (some ⟨true, some "trial"⟩), .resume 1 ]

theorem leftAlone_pending : leftAlone.slotAt 3 "studio" = some (.pending ⟨"studio", 0⟩) := by
  decide

theorem leftAlone_nobody_waits (caller : Nat) (ticket : Ticket) :
    ¬ leftAlone.WaitsOn 3 caller ticket := by
  have hwaiting : (leftAlone.stateAt 3).waiting = [] := rfl
  unfold WaitsOn waiter?
  rw [hwaiting]
  nofun

theorem leftAlone_asks_nothing (caller : Nat) (ticket : Ticket) :
    ¬ leftAlone.Happens 3 (.asked caller ticket) := by
  have hhappens : (step leftAlone.lifetimes (leftAlone.stateAt 3) (leftAlone.eventAt 3)).2
      = [.joined 1 ⟨"studio", 0⟩] := by decide
  intro h
  rw [Happens, hhappens] at h
  cases List.mem_singleton.mp h

/-- The one of two callers that made the source be asked is cancelled. -/
def leftToAnother : Run where
  events := [.check 0 "studio", .check 1 "studio", .cancel 0]

theorem leftToAnother_leaves : leftToAnother.LeavesAnother := by
  rintro m caller ticket ⟨hevent, hwaits⟩
  match m with
  | 0 => cases hevent
  | 1 => cases hevent
  | 2 =>
    cases hevent
    obtain rfl : ticket = ⟨"studio", 0⟩ := by
      have hticket : leftToAnother.WaitsOn 2 0 ⟨"studio", 0⟩ := by decide
      exact congrArg Waiter.ticket (Option.some.inj (hwaits.symm.trans hticket))
    exact ⟨1, by decide, by decide⟩
  | m + 3 => cases hevent

theorem abandoned_only_by_cancellation_leftAlone :
    (leftAlone.Abandoned 3 ⟨"studio", 0⟩ ∧ leftAlone.Happens 3 (.joined 1 ⟨"studio", 0⟩)
        ∧ leftAlone.CheckReturns 3 5 1 "studio" ⟨true, some "trial"⟩ (.lookedUp ⟨"studio", 0⟩))
      ∧ leftToAnother.LeavesAnother
      ∧ ∃ caller, leftToAnother.WaitsOn 3 caller ⟨"studio", 0⟩ := by
  obtain ⟨-, hcheck, hobtains, -⟩ := abandoned_only_by_cancellation leftAlone
  obtain ⟨-, -, -, hleaves⟩ := abandoned_only_by_cancellation leftToAnother
  have hexpired : ∀ d storedAt, leftAlone.slotAt 3 "studio" = some (.ready d storedAt) →
      storedAt + leftAlone.lifetimes.of d ≤ leftAlone.timeAt 3 := fun d storedAt hready => by
    cases leftAlone_pending.symm.trans hready
  have hreturns : leftAlone.CheckReturns 3 5 1 "studio" ⟨true, some "trial"⟩
      (.lookedUp ⟨"studio", 0⟩) := by
    refine ⟨rfl, by decide, by decide, fun k hk hk' => ?_, by decide⟩
    obtain rfl | rfl : k = 4 ∨ k = 5 := by omega
    · decide
    · decide
  refine ⟨⟨?_, ?_, hreturns⟩, leftToAnother_leaves, (hleaves leftToAnother_leaves).1 3 "studio" _
    (by decide)⟩
  · rcases hcheck 3 1 "studio" rfl (by decide) (fun other number => leftAlone_nobody_waits other _)
      hexpired with ⟨number, hasked⟩ | ⟨number, hpending, habandoned, -⟩
    · exact absurd hasked (leftAlone_asks_nothing 1 _)
    · cases leftAlone_pending.symm.trans hpending
      exact habandoned
  · rcases hobtains 3 5 1 "studio" _ _ hreturns with hasked | ⟨hjoined, -⟩
    · exact absurd hasked (leftAlone_asks_nothing 1 _)
    · exact hjoined

/-- A pending lookup need not have a waiting caller, and a check that finds nobody waiting and no
    decision need not ask anew: it is told, and stores, what was asked for a caller long gone. -/
theorem pending_without_waiter :
    leftAlone.slotAt 3 "studio" = some (.pending ⟨"studio", 0⟩)
      ∧ (∀ caller ticket, ¬ leftAlone.WaitsOn 3 caller ticket)
      ∧ leftAlone.eventAt 3 = .check 1 "studio" ∧ leftAlone.Idle 3 1
      ∧ (∀ caller ticket, ¬ leftAlone.Happens 3 (.asked caller ticket))
      ∧ leftAlone.Happens 5
        (.returned 1 "studio" ⟨true, some "trial"⟩ (.lookedUp ⟨"studio", 0⟩))
      ∧ leftAlone.slotAt 6 "studio" = some (.ready ⟨true, some "trial"⟩ 3600000) :=
  ⟨leftAlone_pending, leftAlone_nobody_waits, rfl, by decide, leftAlone_asks_nothing, by decide,
    by decide⟩

end BlockMail.Guard.Run
