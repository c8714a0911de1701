import BlockMail.Proofs.Guard.History

/-! # Where decisions come from

A check returns either what the source said to the lookup that the caller waited on,
or a stored decision.  A stored decision is the successful answer of the latest
lookup, within its lifetime, and it counts from the moment at which the first of the
lookup's waiters went on.  So an organization is never reported blocked unless the
source said so of that organization.
-/

namespace BlockMail.Guard.Run

open State

variable {r : Run} {i j : Nat} {organization : String} {ticket : Ticket} {caller : Nat}
  {d : Decision} {origin : Origin}

theorem CheckReturns.answer (h : r.CheckReturns i j caller organization d origin) :
    ∃ number a, (∃ k < j, r.Answers k ⟨organization, number⟩ a) ∧ d = a.getD .allowed := by
  cases origin with
  | lookedUp ticket =>
    obtain ⟨rfl, -⟩ := h.waitsOn
    obtain ⟨a, hanswers, hd⟩ := h.answered
    exact ⟨ticket.number, a, hanswers, hd⟩
  | stored =>
    obtain ⟨-, ticket, m, rfl, hstored, -⟩ := h.stored
    obtain ⟨k, hkm, hanswers⟩ := hstored.settles.answered
    exact ⟨ticket.number, some d, ⟨k, Nat.lt_trans hkm hstored.before, hanswers⟩, rfl⟩

theorem CheckReturns.blocked (h : r.CheckReturns i j caller organization d origin)
    (hblocked : d.hardBlocked = true) :
    ∃ number, ∃ k < j, r.Answers k ⟨organization, number⟩ (some d) := by
  obtain ⟨number, a, hanswers, hd⟩ := h.answer
  cases a with
  | none =>
    rw [hd] at hblocked
    cases hblocked
  | some d' =>
    cases hd
    exact ⟨number, hanswers⟩

theorem slotAt_succ_of_returned (h : r.Happens j (.returned caller organization d origin))
    {d' : Decision} {storedAt : Nat}
    (hready : r.slotAt j organization = some (.ready d' storedAt)) :
    r.slotAt (j + 1) organization = some (.ready d' storedAt) := by
  have htransition := r.transition_at j
  cases origin with
  | stored =>
    obtain ⟨-, -, hstate, -⟩ := htransition.of_returned_stored h
    unfold slotAt
    rw [hstate]
    exact hready
  | lookedUp ticket =>
    obtain ⟨hevent, rfl, hwaits, -⟩ := htransition.of_returned_lookedUp h
    rw [hevent] at htransition
    have hslots := htransition.slots_of_resume hwaits (fun hpending => by
      cases hpending.symm.trans hready)
    unfold slotAt
    rw [hslots]
    exact hready

/-- **Provenance and lifetime.**  A check returns the answer of the lookup that the
    caller waited on, where a failure allows; or at once the successful answer of the
    latest lookup, stored at position `m` and not older than its lifetime. -/
theorem provenance (r : Run) (j caller : Nat) (organization : String) (d : Decision)
    (origin : Origin) (h : r.Happens j (.returned caller organization d origin)) :
    ((∃ i number a, r.CheckReturns i j caller organization d origin ∧ i < j
          ∧ origin = .lookedUp ⟨organization, number⟩
          ∧ (∀ k, i < k → k ≤ j → r.WaitsOn k caller ⟨organization, number⟩)
          ∧ (∃ k < j, r.Answers k ⟨organization, number⟩ a) ∧ d = a.getD .allowed)
      ∨ ∃ number m, r.CheckReturns j j caller organization d origin ∧ origin = .stored
          ∧ r.Latest j ⟨organization, number⟩ ∧ r.Stored m j ⟨organization, number⟩ d
          ∧ r.timeAt m ≤ r.timeAt j
          ∧ r.timeAt j < r.timeAt m
              + if d.hardBlocked then r.lifetimes.blocked else r.lifetimes.allowed)
    ∧ (d.hardBlocked = true → ∃ number, ∃ k < j, r.Answers k ⟨organization, number⟩ (some d))
    ∧ ∀ d' storedAt, r.slotAt j organization = some (.ready d' storedAt) →
        r.slotAt (j + 1) organization = some (.ready d' storedAt) := by
  obtain ⟨i, hcheck⟩ := check_of_returned h
  refine ⟨?_, hcheck.blocked, fun d' storedAt => slotAt_succ_of_returned h⟩
  cases origin with
  | lookedUp ticket =>
    obtain ⟨rfl, hij, -, hwaits⟩ := hcheck.waitsOn
    obtain ⟨a, hanswers, hd⟩ := hcheck.answered
    exact .inl ⟨i, ticket.number, a, hcheck, hij, rfl, hwaits, hanswers, hd⟩
  | stored =>
    obtain ⟨rfl, ticket, m, rfl, hstored, hfresh⟩ := hcheck.stored
    exact .inr ⟨ticket.number, m, hcheck, rfl, hstored.latest, hstored,
      timeAt_mono (Nat.le_of_lt hstored.before), hfresh⟩

/-- Two callers share a lookup whose answer blocks, and go on one after the other; a
    third is then told the same from the cache. -/
def sharedBlock : Run where
  lifetimes := { allowed := 60, blocked := 15 }
  events :=
    [ .check 0 "studio", .check 1 "studio", .answer ⟨"studio", 0⟩ (some ⟨true, some "trial"⟩),
      .wait 5, .resume 0, .wait 4, .resume 1, .wait 10, .check 2 "studio" ]

theorem provenance_sharedBlock :
    sharedBlock.Happens 8 (.returned 2 "studio" ⟨true, some "trial"⟩ .stored)
      ∧ ∃ number, ∃ k < 8,
        sharedBlock.Answers k ⟨"studio", number⟩ (some ⟨true, some "trial"⟩) := by
  have h : sharedBlock.Happens 8 (.returned 2 "studio" ⟨true, some "trial"⟩ .stored) := by decide
  exact ⟨h, (provenance sharedBlock 8 2 "studio" _ .stored h).2.1 rfl⟩

end BlockMail.Guard.Run
