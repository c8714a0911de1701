import BlockMail.Proofs.Guard.History

/-! # Forgetting is a barrier

Once an organization is forgotten, no check that begins afterwards returns what an
older lookup found out.  Such a lookup may still be answered and its waiters may still
go on; but it is not registered any more, and then they leave all slots alone.
-/

namespace BlockMail.Guard.Run

open State

variable {r : Run} {i j k p : Nat} {organization : String} {ticket : Ticket} {caller : Nat}
  {d : Decision} {origin : Origin}

theorem Forgets.slotAt_succ (h : r.Forgets p organization) :
    r.slotAt (p + 1) organization = none := by
  unfold slotAt
  rw [stateAt]
  rcases h with h | h
  · rw [h]
    exact update_self _ _ _
  · rw [h]
    rfl

/-- A lookup that is registered was started after its organization was forgotten last. -/
theorem Forgets.lt_start_of_pending (h : r.Forgets p organization) (hpj : p < j)
    (hpending : r.slotAt j organization = some (.pending ticket)) (hstarts : r.Starts k ticket) :
    p < k := by
  obtain ⟨-, i, -, hi, hsince⟩ := pending_since hpending
  cases hi.unique hstarts
  refine Nat.not_le.1 fun hkp => ?_
  cases h.slotAt_succ.symm.trans (hsince (p + 1) (Nat.lt_succ_of_le hkp) hpj)

theorem Forgets.lt_start_of_stored {m : Nat} (h : r.Forgets p ticket.organization) (hpj : p < j)
    (hstored : r.Stored m j ticket d) (hstarts : r.Starts k ticket) : p < k := by
  -- Had the decision been stored before `p`, it would be gone behind `p`.
  have hpm : p < m := Nat.not_le.1 fun hmp => by
    cases h.slotAt_succ.symm.trans (hstored.kept (p + 1) (Nat.lt_succ_of_le hmp) hpj)
  exact h.lt_start_of_pending hpm hstored.settles.registered hstarts

theorem Forgets.lt_start_of_waitsOn (h : r.Forgets p organization) (hpi : p < i)
    (hcheck : r.CheckReturns i j caller organization d (.lookedUp ticket))
    (hstarts : r.Starts k ticket) : p < k := by
  obtain ⟨rfl, -, hbegins, -⟩ := hcheck.waitsOn
  rcases hbegins with hasked | hjoined
  · have hi : r.Starts i ticket := ⟨caller, hasked⟩
    exact hi.unique hstarts ▸ hpi
  · obtain ⟨asked, -, -, hpending⟩ := (r.transition_at i).of_joined hjoined
    have horganization := (pending_since hpending).1
    subst horganization
    exact h.lt_start_of_pending hpi hpending hstarts

theorem CheckReturns.obtained (h : r.CheckReturns i j caller organization d origin) :
    ∃ ticket k, r.ObtainedBy j organization d origin ticket ∧ r.Starts k ticket := by
  cases origin with
  | lookedUp ticket =>
    obtain ⟨a, ⟨m, -, hanswers⟩, -⟩ := h.answered
    obtain ⟨k, -, hstarts⟩ := hanswers.started
    exact ⟨ticket, k, rfl, hstarts⟩
  | stored =>
    obtain ⟨-, ticket, m, horganization, hstored, -⟩ := h.stored
    obtain ⟨n, -, hanswers⟩ := hstored.settles.answered
    obtain ⟨k, -, hstarts⟩ := hanswers.started
    exact ⟨ticket, k, ⟨horganization, m, hstored⟩, hstarts⟩

/-- A caller whose lookup is no longer registered returns the outcome of its lookup and
    leaves all slots as they are. -/
theorem resume_disowned {q : Nat} {a : Answer} (hevent : r.eventAt q = .resume caller)
    (hwaits : r.WaitsOn q caller ticket) (hanswers : ∃ k < q, r.Answers k ticket a)
    (hdisowned : r.slotAt q ticket.organization ≠ some (.pending ticket)) :
    (r.stateAt (q + 1)).slots = (r.stateAt q).slots
      ∧ r.Happens q
        (.returned caller ticket.organization (a.getD .allowed) (.lookedUp ticket)) := by
  have htransition := r.transition_at q
  rw [hevent] at htransition
  refine ⟨htransition.slots_of_resume hwaits hdisowned, ?_⟩
  have hanswered := answered_iff.2 hanswers
  unfold Happens
  rw [hevent]
  simp only [step, resume, show (r.stateAt q).waiter? caller = _ from hwaits, hanswered,
    List.mem_singleton]

/-- **Barrier and ownership.**  A check that begins after its organization was forgotten
    returns what a lookup found out that was started after that; and a caller whose
    lookup is no longer registered changes no slot but still returns the outcome. -/
theorem barrier (r : Run) :
    (∀ p i j caller organization d origin, r.Forgets p organization → p < i →
        r.CheckReturns i j caller organization d origin →
        (∃ ticket k, r.ObtainedBy j organization d origin ticket ∧ r.Starts k ticket)
          ∧ ∀ ticket k, r.ObtainedBy j organization d origin ticket → r.Starts k ticket → p < k)
    ∧ ∀ q caller ticket a, r.eventAt q = .resume caller → r.WaitsOn q caller ticket →
        (∃ k < q, r.Answers k ticket a) →
        r.slotAt q ticket.organization ≠ some (.pending ticket) →
        (r.stateAt (q + 1)).slots = (r.stateAt q).slots
          ∧ r.Happens q
            (.returned caller ticket.organization (a.getD .allowed) (.lookedUp ticket)) := by
  refine ⟨fun p i j caller organization d origin hforgets hpi hcheck => ⟨hcheck.obtained, ?_⟩,
    fun q caller ticket a => resume_disowned⟩
  intro ticket k hobtained hstarts
  cases origin with
  | lookedUp waited =>
    cases hobtained
    exact hforgets.lt_start_of_waitsOn hpi hcheck hstarts
  | stored =>
    obtain ⟨rfl, m, hstored⟩ := hobtained
    exact hforgets.lt_start_of_stored (Nat.lt_of_lt_of_le hpi hcheck.ordered) hstored hstarts

/-- A lookup that was forgotten is answered, and its caller goes on, after a newer one
    has been settled. -/
def staleAnswer : Run where
  events :=
    [ .check 0 "studio", .invalidate "studio", .check 1 "studio",
      .answer ⟨"studio", 1⟩ (some .allowed), .resume 1,
      .answer ⟨"studio", 0⟩ (some ⟨true, some "trial"⟩), .resume 0, .check 2 "studio" ]

theorem barrier_staleAnswer :
    (∃ ticket k, staleAnswer.ObtainedBy 7 "studio" .allowed .stored ticket
        ∧ staleAnswer.Starts k ticket ∧ 1 < k)
      ∧ (staleAnswer.stateAt 7).slots = (staleAnswer.stateAt 6).slots
      ∧ staleAnswer.Happens 6
        (.returned 0 "studio" ⟨true, some "trial"⟩ (.lookedUp ⟨"studio", 0⟩)) := by
  have hcheck : staleAnswer.CheckReturns 7 7 2 "studio" .allowed .stored :=
    ⟨rfl, by decide, Nat.le_refl 7, fun k hlt hle => absurd hlt (Nat.not_lt.2 hle), by decide⟩
  have hanswers := answered_iff.1
    (show (staleAnswer.stateAt 6).answers ⟨"studio", 0⟩ = some (some ⟨true, some "trial"⟩) by
      decide)
  obtain ⟨⟨ticket, k, hobtained, hstarts⟩, hlater⟩ :=
    (barrier staleAnswer).1 1 7 7 2 "studio" .allowed .stored (.inl rfl) (by decide) hcheck
  exact ⟨⟨ticket, k, hobtained, hstarts, hlater ticket k hobtained hstarts⟩,
    (barrier staleAnswer).2 6 0 ⟨"studio", 0⟩ _ rfl (by decide) hanswers (by decide)⟩

end BlockMail.Guard.Run
