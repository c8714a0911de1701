import Mathlib.Data.List.Nodup
import BlockMail.Guard.Simulation
import BlockMail.Proofs.Guard.Beside

/-! # Scripted guards

A guard with a scripted source does all that it does by steps of the guard.  So what has happened to
it is a run, and what is known about runs holds of it (`Advances`).  Its source answers whatever
somebody waits on, so a check is never left waiting, and what it gives is what a check of the run
returns (`scripted_guard`).
-/

namespace BlockMail.Guard

open State

def Happening.return? : Happening → Option (Nat × Decision)
  | .returned caller _ d _ => some (caller, d)
  | _ => none

def Happening.asked? : Happening → Option String
  | .asked _ ticket => some ticket.organization
  | _ => none

namespace Simulation

variable {s t u : Simulation} {events later : List Event}

/-! ## Events -/

/-- These events lead from one state of a scripted guard to another, which has noted what they made
    happen.  Every check among them is by a caller of its own. -/
structure Advances (s : Simulation) (events : List Event) (t : Simulation) : Prop where
  lifetimes_eq : t.lifetimes = s.lifetimes
  guard_eq : t.guard = run s.lifetimes s.guard events
  returns_eq : t.returns
    = ((trace s.lifetimes s.guard events).filterMap (·.2.return?)).reverse ++ s.returns
  asked_eq : t.asked
    = ((trace s.lifetimes s.guard events).filterMap (·.2.asked?)).reverse ++ s.asked
  callers_le : s.callers ≤ t.callers
  fresh : ∀ caller organization, .check caller organization ∈ events →
    s.callers ≤ caller ∧ caller < t.callers

theorem Advances.refl (s : Simulation) : Advances s [] s :=
  ⟨rfl, rfl, rfl, rfl, Nat.le_refl _, nofun⟩

theorem Advances.trans (h : Advances s events t) (h' : Advances t later u) :
    Advances s (events ++ later) u where
  lifetimes_eq := h'.lifetimes_eq.trans h.lifetimes_eq
  guard_eq := by rw [run_append, h'.guard_eq, h.guard_eq, h.lifetimes_eq]
  returns_eq := by
    rw [trace_append, List.filterMap_append, List.reverse_append, List.append_assoc, ← h.guard_eq,
      ← h.returns_eq, h'.returns_eq, h.lifetimes_eq]
  asked_eq := by
    rw [trace_append, List.filterMap_append, List.reverse_append, List.append_assoc, ← h.guard_eq,
      ← h.asked_eq, h'.asked_eq, h.lifetimes_eq]
  callers_le := Nat.le_trans h.callers_le h'.callers_le
  fresh caller organization hmem := by
    rcases List.mem_append.mp hmem with hmem | hmem
    · obtain ⟨hge, hlt⟩ := h.fresh caller organization hmem
      exact ⟨hge, Nat.lt_of_lt_of_le hlt h'.callers_le⟩
    · obtain ⟨hge, hlt⟩ := h'.fresh caller organization hmem
      exact ⟨Nat.le_trans h.callers_le hge, hlt⟩

theorem foldl_note (hs : List Happening) (s : Simulation) :
    hs.foldl note s = { s with
      promises := (hs.foldl note s).promises
      returns := (hs.filterMap (·.return?)).reverse ++ s.returns
      asked := (hs.filterMap (·.asked?)).reverse ++ s.asked } := by
  induction hs generalizing s with
  | nil => rfl
  | cons h hs ih =>
    rw [List.foldl_cons, ih]
    cases h <;> simp [note, Happening.return?, Happening.asked?]

theorem apply_eq (s : Simulation) (e : Event) :
    s.apply e = { s with
      guard := (step s.lifetimes s.guard e).1
      promises := (s.apply e).promises
      returns := ((step s.lifetimes s.guard e).2.filterMap (·.return?)).reverse ++ s.returns
      asked := ((step s.lifetimes s.guard e).2.filterMap (·.asked?)).reverse ++ s.asked } :=
  foldl_note _ _

theorem trace_singleton (lifetimes : Lifetimes) (g : State) (e : Event) :
    trace lifetimes g [e] = (step lifetimes g e).2.map (g.now, ·) := by
  rw [trace, trace, List.append_nil]

theorem ask_advances (s : Simulation) (organization : String) :
    Advances s [.check s.callers organization] (s.ask organization).2 := by
  unfold ask
  rw [apply_eq]
  refine ⟨rfl, rfl, ?_, ?_, Nat.le_succ _, fun caller asked hmem => ?_⟩
  · rw [trace_singleton, List.filterMap_map]
    rfl
  · rw [trace_singleton, List.filterMap_map]
    rfl
  · cases List.mem_singleton.mp hmem
    exact ⟨Nat.le_refl _, Nat.lt_succ_self _⟩

/-- Events of which none is a check lead from one state to another. -/
def Proceeds (s t : Simulation) : Prop := ∃ events, Advances s events t ∧ t.callers = s.callers

theorem Proceeds.refl (s : Simulation) : Proceeds s s := ⟨[], .refl s, rfl⟩

theorem Proceeds.trans (h : Proceeds s t) (h' : Proceeds t u) : Proceeds s u := by
  obtain ⟨events, hadvances, hcallers⟩ := h
  obtain ⟨later, hadvances', hcallers'⟩ := h'
  exact ⟨_, hadvances.trans hadvances', hcallers'.trans hcallers⟩

theorem Proceeds.foldl {α : Type} {f : Simulation → α → Simulation}
    (hf : ∀ s a, Proceeds s (f s a)) (as : List α) (s : Simulation) :
    Proceeds s (as.foldl f s) := by
  induction as generalizing s with
  | nil => exact .refl s
  | cons a as ih => exact (hf s a).trans (ih (f s a))

theorem Proceeds.returns_subset (h : Proceeds s t) : s.returns ⊆ t.returns := by
  obtain ⟨events, hadvances, -⟩ := h
  rw [hadvances.returns_eq]
  exact List.subset_append_right _ _

theorem apply_proceeds (s : Simulation) {e : Event}
    (he : ∀ caller organization, e ≠ .check caller organization) : Proceeds s (s.apply e) := by
  rw [apply_eq]
  refine ⟨[e], ⟨rfl, rfl, ?_, ?_, Nat.le_refl _, fun caller organization hmem => ?_⟩, rfl⟩
  · rw [trace_singleton, List.filterMap_map]
    rfl
  · rw [trace_singleton, List.filterMap_map]
    rfl
  · exact absurd (List.mem_singleton.mp hmem).symm (he caller organization)

theorem keep_proceeds (s : Simulation) (p : Promise) : Proceeds s (s.keep p) := by
  have hforget : Proceeds s { s with promises := s.promises.filter (·.ticket != p.ticket) } :=
    ⟨[], ⟨rfl, rfl, rfl, rfl, Nat.le_refl _, nofun⟩, rfl⟩
  refine (hforget.trans (apply_proceeds (e := .answer p.ticket p.answer) _ nofun)).trans ?_
  exact Proceeds.foldl (fun s caller => apply_proceeds (e := .resume caller) s nofun) _ _

theorem moveTo_proceeds (s : Simulation) (time : Nat) : Proceeds s (s.moveTo time) :=
  apply_proceeds (e := .wait (time - s.guard.now)) s nofun

theorem waitUntil_proceeds (s : Simulation) (time : Nat) : Proceeds s (s.waitUntil time) := by
  refine Proceeds.trans ?_ (moveTo_proceeds _ time)
  exact Proceeds.foldl (fun s p => (moveTo_proceeds s p.due).trans (keep_proceeds _ p)) _ _

theorem beginAll_advances (s : Simulation) (left : Nat) (organizations : List String) :
    ∃ events, Advances s events (s.beginAll left organizations).2 := by
  induction organizations generalizing s left with
  | nil => exact ⟨[], .refl s⟩
  | cons organization rest ih =>
    obtain ⟨events, hrest⟩ := ih
      (if left = 0 then (s.ask organization).2 else (s.ask organization).2.settleDue)
      (left - (s.ask organization).2.accesses (s.ask organization).1)
    have hsettled : Proceeds (s.ask organization).2
        (if left = 0 then (s.ask organization).2 else (s.ask organization).2.settleDue) := by
      split
      · exact .refl _
      · exact waitUntil_proceeds _ _
    obtain ⟨between, hbetween, -⟩ := hsettled
    exact ⟨_, ((ask_advances s organization).trans hbetween).trans hrest⟩

theorem checkAll_advances (s : Simulation) (organizations : List String) :
    ∃ events, Advances s events (s.checkAll organizations).2 := by
  obtain ⟨events, hbegun⟩ := beginAll_advances s burst organizations
  obtain ⟨later, hawaited, -⟩ := waitUntil_proceeds (s.beginAll burst organizations).2 _
  exact ⟨_, hbegun.trans hawaited⟩

theorem Advances.of_eq {background : Dict Nat} {script : Dict Reply} (h : Advances s events t) :
    Advances s events { t with background, script } :=
  ⟨h.lifetimes_eq, h.guard_eq, h.returns_eq, h.asked_eq, h.callers_le, h.fresh⟩

theorem perform_advances (s : Simulation) (i : Instruction) :
    ∃ events, Advances s events (s.perform i).2 := by
  have hproceeds : ∀ {t}, Proceeds s t → ∃ events, Advances s events t :=
    fun ⟨events, h, _⟩ => ⟨events, h⟩
  cases i with
  | set organization reply => exact ⟨[], (Advances.refl s).of_eq⟩
  | check organization | isAllowed organization => exact checkAll_advances s [organization]
  | checkAll organizations => exact checkAll_advances s organizations
  | start name organization =>
    obtain ⟨events, h, -⟩ := waitUntil_proceeds (s.ask organization).2 _
    exact ⟨_, ((ask_advances s organization).trans h).of_eq⟩
  | join name =>
    rw [perform]
    cases s.background.get? name with
    | none => exact ⟨[], .refl s⟩
    | some caller =>
      obtain ⟨events, h, -⟩ := waitUntil_proceeds s _
      exact ⟨events, h.of_eq⟩
  | abort name =>
    rw [perform]
    cases s.background.get? name with
    | none => exact ⟨[], .refl s⟩
    | some caller =>
      obtain ⟨events, h, -⟩ := apply_proceeds s (e := .cancel caller) nofun
      exact ⟨events, h.of_eq⟩
  | advance duration => exact hproceeds (waitUntil_proceeds s _)
  | invalidate organization =>
    exact hproceeds (apply_proceeds (e := .invalidate organization) s nofun)
  | clear => exact hproceeds (apply_proceeds (e := .clear) s nofun)

/-! ## Nobody waits for ever -/

/-- Whoever waits, waits on a lookup that the source has promised to answer, and so will whoever
    joins one. -/
structure Sound (s : Simulation) : Prop where
  distinct : (s.guard.waiting.map (·.caller)).Nodup
  numbered : ∀ w ∈ s.guard.waiting, w.caller < s.callers
  owned : Owned s.guard
  promised : ∀ w ∈ s.guard.waiting, w.ticket ∈ s.promises.map (·.ticket)
  registered : ∀ organization ticket, s.guard.slots organization = some (.pending ticket) →
    ticket ∈ s.promises.map (·.ticket)
  unanswered : ∀ ticket ∈ s.promises.map (·.ticket),
    ticket.number < s.guard.started ticket.organization ∧ s.guard.answers ticket = none
  once : (s.promises.map (·.ticket)).Nodup
  answered : ∀ ticket, s.guard.answers ticket ≠ none →
    ticket.number < s.guard.started ticket.organization

theorem Sound.of_eq {background : Dict Nat} {script : Dict Reply} (h : Sound s) :
    Sound { s with background, script } :=
  ⟨h.distinct, h.numbered, h.owned, h.promised, h.registered, h.unanswered, h.once,
    h.answered⟩

theorem Sound.of_fewer (h : Sound s) (hpromises : t.promises = s.promises)
    (hcallers : s.callers ≤ t.callers) (hwaiting : t.guard.waiting.Sublist s.guard.waiting)
    (hslots : ∀ organization ticket, t.guard.slots organization = some (.pending ticket) →
      s.guard.slots organization = some (.pending ticket))
    (hstarted : t.guard.started = s.guard.started) (hanswers : t.guard.answers = s.guard.answers) :
    Sound t where
  distinct := h.distinct.sublist (hwaiting.map _)
  numbered w hw := Nat.lt_of_lt_of_le (h.numbered w (hwaiting.mem hw)) hcallers
  owned organization ticket hpending := h.owned organization ticket (hslots _ _ hpending)
  promised w hw := hpromises ▸ h.promised w (hwaiting.mem hw)
  registered organization ticket hpending :=
    hpromises ▸ h.registered organization ticket (hslots _ _ hpending)
  unanswered ticket hticket := by
    rw [hstarted, hanswers]
    exact h.unanswered ticket (hpromises ▸ hticket)
  once := hpromises ▸ h.once
  answered ticket := by
    rw [hstarted, hanswers]
    exact h.answered ticket

theorem waiter?_of_mem {g : State} (hdistinct : (g.waiting.map (·.caller)).Nodup) {w : Waiter}
    (hw : w ∈ g.waiting) : g.waiter? w.caller = some w := by
  obtain ⟨v, hv⟩ : ∃ v, g.waiter? w.caller = some v :=
    Option.isSome_iff_exists.mp (List.find?_isSome.mpr ⟨w, hw, beq_self_eq_true _⟩)
  have hcaller : v.caller = w.caller := by rw [waiter?_caller hv]
  rw [hv, List.inj_on_of_nodup_map hdistinct (List.mem_of_find?_eq_some hv) hw hcaller]

/-! ### A lookup is answered -/

/-- These callers went on with the answer of a lookup. -/
structure Resumed (ticket : Ticket) (cs : List Nat) (s t : Simulation) : Prop where
  promises_eq : t.promises = s.promises
  callers_eq : t.callers = s.callers
  started_eq : t.guard.started = s.guard.started
  answers_eq : t.guard.answers = s.guard.answers
  waiting_eq : t.guard.waiting = s.guard.waiting.filter fun w => w.caller ∉ cs
  slots : ∀ organization other, t.guard.slots organization = some (.pending other) →
    s.guard.slots organization = some (.pending other)
  settled : cs ≠ [] → t.guard.slots ticket.organization ≠ some (.pending ticket)
  returned : ∀ c ∈ cs, ∃ d, (c, d) ∈ t.returns

theorem apply_resume {caller : Nat} {ticket : Ticket} {a : Answer}
    (hwaits : s.guard.waiter? caller = some ⟨caller, ticket⟩)
    (hanswered : s.guard.answers ticket = some a) :
    s.apply (.resume caller) = { s with
      guard := (s.guard.settle ticket a).dismiss caller
      returns := (caller, a.getD .allowed) :: s.returns } := by
  unfold apply
  rw [step, resume_of_answered hwaits hanswered]
  rfl

theorem pending_of_settle {g : State} {ticket other : Ticket} {a : Answer} {organization : String}
    (h : (g.settle ticket a).slots organization = some (.pending other)) :
    g.slots organization = some (.pending other) := by
  rw [slots_settle_apply] at h
  split at h
  · exact absurd h (settledSlot_ne_pending g a other)
  · exact h

theorem resume_resumed {caller : Nat} {ticket : Ticket} {a : Answer}
    (hwaits : s.guard.waiter? caller = some ⟨caller, ticket⟩)
    (hanswered : s.guard.answers ticket = some a) :
    Resumed ticket [caller] s (s.apply (.resume caller)) := by
  rw [apply_resume hwaits hanswered]
  refine ⟨rfl, rfl, ?_, ?_, ?_, fun _ _ => pending_of_settle, fun _ => ?_, ?_⟩
  · rw [dismiss, settle_eq]
  · rw [dismiss, settle_eq]
  · rw [dismiss, settle_eq]
    refine List.filter_congr fun w _ => ?_
    by_cases hw : w.caller = caller <;> simp [hw]
  · have hregistered := isRegistered_settle s.guard ticket a
    rwa [isRegistered, beq_eq_false_iff_ne] at hregistered
  · intro c hc
    cases List.mem_singleton.mp hc
    exact ⟨_, .head _⟩

theorem resumeAll_resumed {ticket : Ticket} {a : Answer} {cs : List Nat} (hdistinct : cs.Nodup)
    (hwaits : ∀ c ∈ cs, s.guard.waiter? c = some ⟨c, ticket⟩)
    (hanswered : s.guard.answers ticket = some a) :
    Resumed ticket cs s (cs.foldl (fun s caller => s.apply (.resume caller)) s) := by
  induction cs generalizing s with
  | nil =>
    refine ⟨rfl, rfl, rfl, rfl, ?_, fun _ _ h => h, fun h => absurd rfl h, nofun⟩
    exact (List.filter_eq_self.mpr fun _ _ => rfl).symm
  | cons c cs ih =>
    obtain ⟨hc, hrest⟩ := List.nodup_cons.mp hdistinct
    have hfirst := resume_resumed (hwaits c (.head _)) hanswered
    have hwaits' : ∀ c' ∈ cs, (s.apply (.resume c)).guard.waiter? c' = some ⟨c', ticket⟩ := by
      intro c' hc'
      rw [apply_resume (hwaits c (.head _)) hanswered]
      show ((s.guard.settle ticket a).dismiss c).waiter? c' = _
      rw [waiter?_dismiss, if_neg fun heq : c' = c => hc (heq ▸ hc'), waiter?_settle]
      exact hwaits c' (.tail _ hc')
    have hlater := ih hrest hwaits' (hfirst.answers_eq ▸ hanswered)
    have hproceeds : Proceeds (s.apply (.resume c))
        (cs.foldl (fun s caller => s.apply (.resume caller)) (s.apply (.resume c))) :=
      Proceeds.foldl (fun s caller => apply_proceeds (e := .resume caller) s nofun) _ _
    refine ⟨hlater.promises_eq.trans hfirst.promises_eq, hlater.callers_eq.trans hfirst.callers_eq,
      hlater.started_eq.trans hfirst.started_eq, hlater.answers_eq.trans hfirst.answers_eq, ?_,
      fun organization other h => hfirst.slots _ _ (hlater.slots _ _ h), fun _ h => ?_, ?_⟩
    · rw [List.foldl_cons, hlater.waiting_eq, hfirst.waiting_eq, List.filter_filter]
      congr 1
      funext w
      by_cases hw : w.caller = c <;> simp [hw]
    · exact hfirst.settled (List.cons_ne_nil _ _) (hlater.slots _ _ h)
    · intro c' hc'
      rcases List.mem_cons.mp hc' with rfl | hc'
      · obtain ⟨d, hd⟩ := hfirst.returned c' (.head _)
        exact ⟨d, hproceeds.returns_subset hd⟩
      · exact hlater.returned c' hc'

theorem mem_waitersOn {g : State} {ticket : Ticket} {caller : Nat} :
    caller ∈ g.waitersOn ticket ↔ ∃ w ∈ g.waiting, w.ticket = ticket ∧ w.caller = caller := by
  simp [waitersOn, and_assoc]

theorem nodup_waitersOn {g : State} (h : (g.waiting.map (·.caller)).Nodup) (ticket : Ticket) :
    (g.waitersOn ticket).Nodup :=
  h.sublist (List.filter_sublist.map _)

theorem Sound.caller_mem_waitersOn_iff (h : Sound s) {w : Waiter} (hw : w ∈ s.guard.waiting)
    (ticket : Ticket) : w.caller ∈ s.guard.waitersOn ticket ↔ w.ticket = ticket := by
  rw [mem_waitersOn]
  refine ⟨?_, fun heq => ⟨w, hw, heq, rfl⟩⟩
  rintro ⟨v, hv, hticket, hcaller⟩
  have hvw := waiter?_of_mem h.distinct hv
  rw [hcaller, waiter?_of_mem h.distinct hw] at hvw
  rw [← hticket, Option.some.inj hvw]

/-- The promise is kept: whoever waited on the lookup has returned. -/
structure Kept (p : Promise) (s t : Simulation) : Prop where
  sound : Sound t
  callers_eq : t.callers = s.callers
  promises_eq : t.promises = s.promises.filter (·.ticket != p.ticket)
  waiting_eq : t.guard.waiting = s.guard.waiting.filter (·.ticket != p.ticket)
  returned : ∀ w ∈ s.guard.waiting, w.ticket = p.ticket → ∃ d, (w.caller, d) ∈ t.returns

/-- The promise is kept, and those who waited on the lookup have not been told. -/
def kept (s : Simulation) (p : Promise) : Simulation :=
  { s with
    guard := { s.guard with answers := update s.guard.answers p.ticket (some p.answer) }
    promises := s.promises.filter (·.ticket != p.ticket) }

theorem keep_eq {p : Promise} (hopen : p.ticket.number < s.guard.started p.ticket.organization
      ∧ s.guard.answers p.ticket = none) :
    s.keep p
      = (s.guard.waitersOn p.ticket).foldl (fun s caller => s.apply (.resume caller))
        (s.kept p) := by
  unfold keep apply
  simp only [step, answer, hopen, and_self, if_true]
  rfl

theorem keep_resumed (h : Sound s) {p : Promise} (hp : p ∈ s.promises) :
    Resumed p.ticket (s.guard.waitersOn p.ticket) (s.kept p) (s.keep p) := by
  rw [keep_eq (h.unanswered p.ticket (List.mem_map_of_mem hp))]
  refine resumeAll_resumed (nodup_waitersOn h.distinct p.ticket) ?_ (update_self _ _ _)
  intro c hc
  obtain ⟨w, hw, hticket, rfl⟩ := mem_waitersOn.mp hc
  have hwaiter := waiter?_of_mem h.distinct hw
  rw [waiter?_caller hwaiter, hticket] at hwaiter
  exact hwaiter

/-- A guard stays sound when a promise is kept and nobody is left who relies on it. -/
theorem Sound.of_kept (h : Sound s) {p : Promise} (hp : p ∈ s.promises)
    (hpromises : t.promises = s.promises.filter (·.ticket != p.ticket))
    (hcallers : t.callers = s.callers)
    (hwaiting : t.guard.waiting = s.guard.waiting.filter (·.ticket != p.ticket))
    (hslots : ∀ organization ticket, t.guard.slots organization = some (.pending ticket) →
      s.guard.slots organization = some (.pending ticket))
    (hsettled : t.guard.slots p.ticket.organization ≠ some (.pending p.ticket))
    (hstarted : t.guard.started = s.guard.started)
    (hanswers : t.guard.answers = update s.guard.answers p.ticket (some p.answer)) : Sound t := by
  have hkept : ∀ ticket, ticket ∈ s.promises.map (·.ticket) → ticket ≠ p.ticket →
      ticket ∈ t.promises.map (·.ticket) := by
    intro ticket hticket hne
    obtain ⟨q, hq, rfl⟩ := List.mem_map.mp hticket
    rw [hpromises]
    exact List.mem_map_of_mem (List.mem_filter.mpr ⟨hq, bne_iff_ne.mpr hne⟩)
  have howned : Owned t.guard := fun organization ticket hpending =>
    h.owned organization ticket (hslots _ _ hpending)
  have hwaits : ∀ w ∈ t.guard.waiting, w ∈ s.guard.waiting ∧ w.ticket ≠ p.ticket := by
    intro w hw
    rw [hwaiting] at hw
    obtain ⟨hw, hne⟩ := List.mem_filter.mp hw
    exact ⟨hw, bne_iff_ne.mp hne⟩
  refine ⟨?_, fun w hw => hcallers ▸ h.numbered w (hwaits w hw).1, howned,
    fun w hw => hkept w.ticket (h.promised w (hwaits w hw).1) (hwaits w hw).2, ?_, ?_, ?_, ?_⟩
  · rw [hwaiting]
    exact h.distinct.sublist (List.filter_sublist.map _)
  · intro organization ticket hpending
    refine hkept ticket (h.registered _ _ (hslots _ _ hpending)) ?_
    rintro rfl
    exact hsettled (howned _ _ hpending ▸ hpending)
  · intro ticket hmem
    rw [hpromises] at hmem
    obtain ⟨q, hq, rfl⟩ := List.mem_map.mp hmem
    obtain ⟨hq, hne⟩ := List.mem_filter.mp hq
    obtain ⟨hnumber, hnone⟩ := h.unanswered q.ticket (List.mem_map_of_mem hq)
    rw [hstarted, hanswers]
    exact ⟨hnumber, (update_of_ne _ _ (bne_iff_ne.mp hne)).trans hnone⟩
  · rw [hpromises]
    exact h.once.sublist (List.filter_sublist.map _)
  · intro ticket hanswer
    rw [hanswers] at hanswer
    rw [hstarted]
    by_cases hticket : ticket = p.ticket
    · rw [hticket]
      exact (h.unanswered p.ticket (List.mem_map_of_mem hp)).1
    · exact h.answered ticket fun hnone => hanswer ((update_of_ne _ _ hticket).trans hnone)

theorem keep_kept (h : Sound s) {p : Promise} (hp : p ∈ s.promises)
    (hwaited : ∃ w ∈ s.guard.waiting, w.ticket = p.ticket) : Kept p s (s.keep p) := by
  have hresumed := keep_resumed h hp
  have hwaiting : (s.keep p).guard.waiting = s.guard.waiting.filter (·.ticket != p.ticket) := by
    rw [hresumed.waiting_eq]
    refine List.filter_congr fun w hw => ?_
    have hiff := h.caller_mem_waitersOn_iff hw p.ticket
    by_cases hticket : w.ticket = p.ticket <;> simp [hiff, hticket]
  obtain ⟨w, hw, hticket⟩ := hwaited
  have hsome : s.guard.waitersOn p.ticket ≠ [] :=
    List.ne_nil_of_mem (mem_waitersOn.mpr ⟨w, hw, hticket, rfl⟩)
  refine ⟨?_, hresumed.callers_eq, hresumed.promises_eq, hwaiting, fun v hv heq => ?_⟩
  · exact h.of_kept hp hresumed.promises_eq hresumed.callers_eq hwaiting hresumed.slots
      (hresumed.settled hsome) hresumed.started_eq hresumed.answers_eq
  · exact hresumed.returned _ (mem_waitersOn.mpr ⟨v, hv, heq, rfl⟩)

/-! ### The clock is moved -/

theorem Sound.moveTo (h : Sound s) (time : Nat) : Sound (s.moveTo time) :=
  ⟨h.distinct, h.numbered, h.owned, h.promised, h.registered, h.unanswered, h.once,
    h.answered⟩

theorem keep_moveTo_kept (h : Sound s) {p : Promise} (hp : p ∈ s.promises)
    (hwaited : ∃ w ∈ s.guard.waiting, w.ticket = p.ticket) (time : Nat) :
    Kept p s ((s.moveTo time).keep p) := by
  have hkept := keep_kept (h.moveTo time) hp hwaited
  exact ⟨hkept.sound, hkept.callers_eq, hkept.promises_eq, hkept.waiting_eq, hkept.returned⟩

/-- Those who waited on lookups that were due have returned, and the others wait on. -/
structure Waited (due : Ticket → Prop) (s t : Simulation) : Prop where
  sound : Sound t
  returned : ∀ w ∈ s.guard.waiting, due w.ticket → ∃ d, (w.caller, d) ∈ t.returns
  waiting : ∀ w ∈ s.guard.waiting, ¬ due w.ticket → w ∈ t.guard.waiting

theorem keepAll_waited {ps : List Promise} (h : Sound s) (hps : ∀ p ∈ ps, p ∈ s.promises)
    (hwaited : ∀ p ∈ ps, ∃ w ∈ s.guard.waiting, w.ticket = p.ticket)
    (hdistinct : (ps.map (·.ticket)).Nodup) :
    Waited (· ∈ ps.map (·.ticket)) s (ps.foldl (fun s p => (s.moveTo p.due).keep p) s) := by
  induction ps generalizing s with
  | nil => exact ⟨h, nofun, fun _ hw _ => hw⟩
  | cons p ps ih =>
    obtain ⟨hp, hrest⟩ := List.nodup_cons.mp hdistinct
    have hkept := keep_moveTo_kept h (hps p (.head _)) (hwaited p (.head _)) p.due
    have hother : ∀ q ∈ ps, q.ticket ≠ p.ticket := fun q hq heq =>
      hp (List.mem_map.mpr ⟨q, hq, heq⟩)
    have hstays : ∀ w ∈ s.guard.waiting, w.ticket ≠ p.ticket →
        w ∈ ((s.moveTo p.due).keep p).guard.waiting := by
      intro w hw hne
      rw [hkept.waiting_eq]
      exact List.mem_filter.mpr ⟨hw, bne_iff_ne.mpr hne⟩
    have hlater := ih hkept.sound
      (fun q hq => by
        rw [hkept.promises_eq]
        exact List.mem_filter.mpr ⟨hps q (.tail _ hq), bne_iff_ne.mpr (hother q hq)⟩)
      (fun q hq => by
        obtain ⟨w, hw, hticket⟩ := hwaited q (.tail _ hq)
        exact ⟨w, hstays w hw (hticket ▸ hother q hq), hticket⟩)
      hrest
    have hproceeds : Proceeds ((s.moveTo p.due).keep p)
        (ps.foldl (fun s p => (s.moveTo p.due).keep p) ((s.moveTo p.due).keep p)) :=
      Proceeds.foldl (fun s p => (moveTo_proceeds s p.due).trans (keep_proceeds _ p)) _ _
    refine ⟨hlater.sound, fun w hw hdue => ?_, fun w hw hdue => ?_⟩
    · by_cases hticket : w.ticket = p.ticket
      · obtain ⟨d, hd⟩ := hkept.returned w hw hticket
        exact ⟨d, hproceeds.returns_subset hd⟩
      · have hlist := (List.mem_cons.mp hdue).resolve_left hticket
        exact hlater.returned w (hstays w hw hticket) hlist
    · have hticket : w.ticket ≠ p.ticket := fun heq => hdue (heq ▸ .head _)
      exact hlater.waiting w (hstays w hw hticket) fun hlist => hdue (.tail _ hlist)

/-- By some time the source answers a lookup. -/
def DueBy (s : Simulation) (time : Nat) (ticket : Ticket) : Prop :=
  ∃ p ∈ s.promises, p.due ≤ time ∧ p.ticket = ticket

theorem mem_duePromises {time : Nat} {p : Promise} :
    p ∈ s.duePromises time
      ↔ p ∈ s.promises ∧ p.due ≤ time ∧ ∃ w ∈ s.guard.waiting, w.ticket = p.ticket := by
  simp only [duePromises, List.mem_mergeSort, List.mem_filter, Bool.and_eq_true, decide_eq_true_eq,
    Bool.not_eq_true', List.isEmpty_eq_false_iff_exists_mem, mem_waitersOn]
  constructor
  · rintro ⟨hp, hdue, _, w, hw, hticket, -⟩
    exact ⟨hp, hdue, w, hw, hticket⟩
  · rintro ⟨hp, hdue, w, hw, hticket⟩
    exact ⟨hp, hdue, _, w, hw, hticket, rfl⟩

theorem waitUntil_waited (h : Sound s) (time : Nat) :
    Waited (s.DueBy time) s (s.waitUntil time) := by
  have hdistinct : ((s.duePromises time).map (·.ticket)).Nodup := by
    have hperm : (s.duePromises time).Perm _ := List.mergeSort_perm _ _
    exact (hperm.map _).nodup_iff.mpr (h.once.sublist (List.filter_sublist.map _))
  have hkept := keepAll_waited h (fun p hp => (mem_duePromises.mp hp).1)
    (fun p hp => (mem_duePromises.mp hp).2.2) hdistinct
  refine ⟨hkept.sound.moveTo time, fun w hw hdue => ?_, fun w hw hdue => ?_⟩
  · obtain ⟨p, hp, hpdue, hticket⟩ := hdue
    refine hkept.returned w hw (List.mem_map.mpr ⟨p, ?_, hticket⟩)
    exact mem_duePromises.mpr ⟨hp, hpdue, w, hw, hticket.symm⟩
  · refine hkept.waiting w hw fun hmem => hdue ?_
    obtain ⟨p, hp, hticket⟩ := List.mem_map.mp hmem
    obtain ⟨hp, hpdue, -⟩ := mem_duePromises.mp hp
    exact ⟨p, hp, hpdue, hticket⟩

/-! ### A check is begun -/

theorem Sound.idle (h : Sound s) : s.guard.waiter? s.callers = none := by
  refine List.find?_eq_none.mpr fun w hw heq => ?_
  exact Nat.lt_irrefl _ (beq_iff_eq.mp heq ▸ h.numbered w hw)

/-- A check that is begun has returned already, or it waits. -/
structure Begun (s t : Simulation) : Prop where
  sound : Sound t
  begun : (∃ d, (s.callers, d) ∈ t.returns) ∨ ∃ w ∈ t.guard.waiting, w.caller = s.callers

theorem Sound.joinOn (h : Sound s) {ticket : Ticket}
    (hticket : ticket ∈ s.promises.map (·.ticket)) :
    Sound { s with callers := s.callers + 1, guard := joinOn s.guard s.callers ticket } where
  distinct := by
    have hnew : s.callers ∉ s.guard.waiting.map (·.caller) := by
      intro hmem
      obtain ⟨w, hw, heq⟩ := List.mem_map.mp hmem
      exact Nat.lt_irrefl _ (heq ▸ h.numbered w hw)
    unfold Guard.joinOn
    rw [List.map_append, List.nodup_append]
    refine ⟨h.distinct, List.nodup_singleton _, fun caller hcaller last hlast heq => hnew ?_⟩
    have hlast' : last = s.callers := List.mem_singleton.mp hlast
    rwa [← hlast', ← heq]
  numbered w hw := by
    rcases List.mem_append.mp hw with hw | hw
    · exact Nat.lt_succ_of_lt (h.numbered w hw)
    · cases List.mem_singleton.mp hw
      exact Nat.lt_succ_self _
  owned := h.owned
  promised w hw := by
    rcases List.mem_append.mp hw with hw | hw
    · exact h.promised w hw
    · cases List.mem_singleton.mp hw
      exact hticket
  registered := h.registered
  unanswered := h.unanswered
  once := h.once
  answered := h.answered

theorem started_le_register (lifetimes : Lifetimes) (g : State) (organization other : String) :
    g.started other ≤ (g.register lifetimes organization).started other := by
  show _ ≤ update g.started organization (g.started organization + 1) other
  by_cases hother : other = organization
  · rw [hother, update_self]
    exact Nat.le_succ _
  · exact Nat.le_of_eq (update_of_ne _ _ hother).symm

theorem slots_register {lifetimes : Lifetimes} {g : State} {organization other : String}
    {ticket : Ticket}
    (h : (g.register lifetimes organization).slots other = some (.pending ticket)) :
    (other = organization ∧ ticket = g.nextTicket organization)
      ∨ g.slots other = some (.pending ticket) := by
  have hslot : update (sweep lifetimes g) organization (some (.pending (g.nextTicket organization)))
      other = some (.pending ticket) := h
  by_cases hother : other = organization
  · rw [hother, update_self] at hslot
    cases hslot
    exact .inl ⟨hother, rfl⟩
  · rw [update_of_ne _ _ hother] at hslot
    exact .inr (sweep_eq_pending_iff.1 hslot)

theorem Sound.register (h : Sound s) {p : Promise} {organization : String}
    (hp : p.ticket = s.guard.nextTicket organization) :
    Sound { s with
      guard := s.guard.register s.lifetimes organization
      promises := p :: s.promises } where
  distinct := h.distinct
  numbered := h.numbered
  owned other ticket hpending := by
    rcases slots_register hpending with ⟨rfl, rfl⟩ | hpending
    · rfl
    · exact h.owned other ticket hpending
  promised w hw := .tail _ (h.promised w hw)
  registered other ticket hpending := by
    rcases slots_register hpending with ⟨rfl, rfl⟩ | hpending
    · exact hp ▸ .head _
    · exact .tail _ (h.registered other ticket hpending)
  unanswered ticket hticket := by
    rcases List.mem_cons.mp hticket with rfl | hticket
    · have hnumber : p.ticket.number = s.guard.started p.ticket.organization := by rw [hp]; rfl
      refine ⟨?_, Classical.byContradiction fun hanswer => ?_⟩
      · show p.ticket.number < update s.guard.started organization _ p.ticket.organization
        rw [hp]
        exact (update_self s.guard.started organization _).symm ▸ Nat.lt_succ_self _
      · exact Nat.lt_irrefl _ (hnumber ▸ h.answered p.ticket hanswer)
    · obtain ⟨hnumber, hnone⟩ := h.unanswered ticket hticket
      exact ⟨Nat.lt_of_lt_of_le hnumber (started_le_register _ _ _ _), hnone⟩
  once := by
    refine List.nodup_cons.mpr ⟨fun hmem => ?_, h.once⟩
    have hnumber := (h.unanswered p.ticket hmem).1
    rw [hp] at hnumber
    exact Nat.lt_irrefl _ hnumber
  answered ticket hanswer :=
    Nat.lt_of_lt_of_le (h.answered ticket hanswer) (started_le_register _ _ _ _)

theorem Sound.ask_of_stale (h : Sound s) {organization : String}
    (hsweep : sweep s.lifetimes s.guard organization = none) :
    ∃ p : Promise, p.ticket = s.guard.nextTicket organization
      ∧ (s.ask organization).2 = { s with
          guard := Guard.joinOn (s.guard.register s.lifetimes organization) s.callers p.ticket
          promises := p :: s.promises
          callers := s.callers + 1
          asked := organization :: s.asked } := by
  let reply := (s.script.get? organization).getD {}
  refine ⟨⟨s.guard.nextTicket organization, s.guard.now + reply.delay, reply.answer⟩, rfl, ?_⟩
  unfold ask apply
  simp only [step, check_of_stale h.idle hsweep, List.foldl_cons, List.foldl_nil, note]
  rfl

theorem Sound.ask_of_fresh (h : Sound s) {organization : String} {d : Decision} {storedAt : Nat}
    (hsweep : sweep s.lifetimes s.guard organization = some (.ready d storedAt)) :
    (s.ask organization).2
      = { s with callers := s.callers + 1, returns := (s.callers, d) :: s.returns } := by
  unfold ask apply
  simp only [step, check_of_fresh h.idle hsweep]
  rfl

theorem Sound.ask_of_pending (h : Sound s) {organization : String} {ticket : Ticket}
    (hpending : s.guard.slots organization = some (.pending ticket)) :
    (s.ask organization).2 = { s with
      callers := s.callers + 1
      guard := Guard.joinOn s.guard s.callers ticket } := by
  unfold ask apply
  simp only [step, check_of_pending h.idle hpending]
  rfl

theorem Sound.ask_begun (h : Sound s) (organization : String) : Begun s (s.ask organization).2 := by
  cases hsweep : sweep s.lifetimes s.guard organization with
  | none =>
    obtain ⟨p, hp, hask⟩ := h.ask_of_stale hsweep
    have hsound := (h.register hp).joinOn (List.mem_cons_self : p.ticket ∈ p.ticket :: _)
    rw [hask]
    exact ⟨⟨hsound.distinct, hsound.numbered, hsound.owned, hsound.promised, hsound.registered,
      hsound.unanswered, hsound.once, hsound.answered⟩,
      .inr ⟨_, List.mem_append_right _ (.head _), rfl⟩⟩
  | some slot =>
    cases slot with
    | ready d storedAt =>
      rw [h.ask_of_fresh hsweep]
      exact ⟨h.of_fewer rfl (Nat.le_succ _) (.refl _) (fun _ _ h => h) rfl rfl, .inl ⟨d, .head _⟩⟩
    | pending ticket =>
      have hpending := sweep_eq_pending_iff.1 hsweep
      rw [h.ask_of_pending hpending]
      exact ⟨h.joinOn (h.registered _ _ hpending), .inr ⟨_, List.mem_append_right _ (.head _), rfl⟩⟩

/-- What is left of a scripted guard after these instructions. -/
def after (s : Simulation) (instructions : List Instruction) : Simulation :=
  instructions.foldl (fun s i => (s.perform i).2) s

theorem after_advances (s : Simulation) (instructions : List Instruction) :
    ∃ events, Advances s events (s.after instructions) := by
  induction instructions generalizing s with
  | nil => exact ⟨[], .refl s⟩
  | cons i instructions ih =>
    obtain ⟨events, h⟩ := perform_advances s i
    obtain ⟨later, hlater⟩ := ih (s.perform i).2
    exact ⟨_, h.trans hlater⟩

/-! ### Instructions -/

theorem Sound.waitUntil (h : Sound s) (time : Nat) : Sound (s.waitUntil time) :=
  (waitUntil_waited h time).sound

theorem Sound.beginAll (h : Sound s) (left : Nat) (organizations : List String) :
    Sound (s.beginAll left organizations).2 := by
  induction organizations generalizing s left with
  | nil => exact h
  | cons organization rest ih =>
    have hasked := (h.ask_begun organization).sound
    have hsettled : Sound (if left = 0 then (s.ask organization).2
        else (s.ask organization).2.settleDue) := by
      split
      · exact hasked
      · exact hasked.waitUntil _
    exact ih hsettled _

theorem Sound.checkAll (h : Sound s) (organizations : List String) :
    Sound (s.checkAll organizations).2 :=
  (h.beginAll burst organizations).waitUntil _

theorem Sound.perform (h : Sound s) (i : Instruction) : Sound (s.perform i).2 := by
  cases i with
  | set organization reply => exact h.of_eq
  | check organization | isAllowed organization => exact h.checkAll [organization]
  | checkAll organizations => exact h.checkAll organizations
  | start name organization => exact ((h.ask_begun organization).sound.waitUntil _).of_eq
  | join name =>
    rw [Simulation.perform]
    cases s.background.get? name with
    | none => exact h
    | some caller => exact (h.waitUntil _).of_eq
  | abort name =>
    rw [Simulation.perform]
    cases s.background.get? name with
    | none => exact h
    | some caller =>
      exact (h.of_fewer (t := s.apply (.cancel caller)) rfl (Nat.le_refl _) List.filter_sublist
        (fun _ _ h => h) rfl rfl).of_eq
  | advance duration => exact h.waitUntil _
  | invalidate organization =>
    refine h.of_fewer rfl (Nat.le_refl _) (.refl _) (fun other ticket hpending => ?_) rfl rfl
    have hslot : update s.guard.slots organization none other = some (.pending ticket) := hpending
    by_cases hother : other = organization
    · rw [hother, update_self] at hslot
      cases hslot
    · rwa [update_of_ne _ _ hother] at hslot
  | clear => exact h.of_fewer rfl (Nat.le_refl _) (.refl _) nofun rfl rfl

theorem Sound.after (h : Sound s) (instructions : List Instruction) :
    Sound (s.after instructions) := by
  induction instructions generalizing s with
  | nil => exact h
  | cons i instructions ih => exact ih (h.perform i)

theorem sound_initial (lifetimes : Lifetimes) : Sound { lifetimes } :=
  ⟨.nil, nofun, nofun, nofun, nofun, nofun, .nil, fun _ h => absurd rfl h⟩

theorem le_awaited {w : Waiter} (h : Sound s) (hw : w ∈ s.guard.waiting) :
    s.DueBy (([w.caller].filterMap s.dueOf?).foldl max s.guard.now) w.ticket := by
  obtain ⟨q, hq, hticket⟩ := List.mem_map.mp (h.promised w hw)
  obtain ⟨p, hp⟩ : ∃ p, s.promises.find? (·.ticket == w.ticket) = some p :=
    Option.isSome_iff_exists.mp (List.find?_isSome.mpr ⟨q, hq, beq_iff_eq.mpr hticket⟩)
  have hdue : s.dueOf? w.caller = some p.due := by
    rw [dueOf?, waiter?_of_mem h.distinct hw, Option.bind_some, hp]
    rfl
  have hlookup : p.ticket = w.ticket := by simpa using List.find?_some hp
  refine ⟨p, List.mem_of_find?_eq_some hp, ?_, hlookup⟩
  simp only [List.filterMap_cons, hdue, List.filterMap_nil, List.foldl_cons, List.foldl_nil]
  exact Nat.le_max_right _ _

/-- Somebody who has waited, or has returned at once, has returned when all that it waits on is
    answered. -/
theorem Begun.returned (h : Begun s t) :
    ∃ d, (s.callers, d) ∈ (t.settleDue.awaitAll [s.callers]).returns := by
  have hsettled : Proceeds t t.settleDue := waitUntil_proceeds _ _
  have hawaited : Proceeds t.settleDue (t.settleDue.awaitAll [s.callers]) := waitUntil_proceeds _ _
  rcases h.begun with ⟨d, hd⟩ | ⟨w, hw, hcaller⟩
  · exact ⟨d, hawaited.returns_subset (hsettled.returns_subset hd)⟩
  · have hwaited : Waited (t.DueBy t.guard.now) t t.settleDue := waitUntil_waited h.sound _
    rw [← hcaller] at hawaited ⊢
    by_cases hdue : t.DueBy t.guard.now w.ticket
    · obtain ⟨d, hd⟩ := hwaited.returned w hw hdue
      exact ⟨d, hawaited.returns_subset hd⟩
    · have hwaits := hwaited.waiting w hw hdue
      exact (waitUntil_waited hwaited.sound _).returned w hwaits (le_awaited hwaited.sound hwaits)

theorem exists_decisionOf? {caller : Nat} (h : ∃ d, (caller, d) ∈ s.returns) :
    ∃ d, s.decisionOf? caller = some d ∧ (caller, d) ∈ s.returns := by
  obtain ⟨d, hd⟩ := h
  obtain ⟨e, he⟩ : ∃ e, s.returns.find? (·.1 == caller) = some e :=
    Option.isSome_iff_exists.mp (List.find?_isSome.mpr ⟨_, hd, beq_self_eq_true _⟩)
  have hcaller : e.1 = caller := by simpa using List.find?_some he
  refine ⟨e.2, by rw [decisionOf?, he]; rfl, ?_⟩
  rw [← hcaller]
  exact List.mem_of_find?_eq_some he

/-- A check is an event, others follow that are no checks, and in the end it has returned what it
    gives. -/
theorem Sound.exists_check (h : Sound s) (organization : String) :
    ∃ later, Advances s (.check s.callers organization :: later) (s.check organization).2
      ∧ (∀ caller other, .check caller other ∉ later)
      ∧ (s.callers, (s.check organization).1) ∈ (s.check organization).2.returns := by
  obtain ⟨t, ht⟩ : ∃ t, t = (s.ask organization).2.settleDue := ⟨_, rfl⟩
  have hcheck : s.check organization
      = (([s.callers].filterMap (t.awaitAll [s.callers]).decisionOf?).headD .allowed,
        t.awaitAll [s.callers]) := by
    rw [ht]
    rfl
  have hsettled : Proceeds (s.ask organization).2 t := ht ▸ waitUntil_proceeds _ _
  have hawaited : Proceeds t (t.awaitAll [s.callers]) := waitUntil_proceeds _ _
  have hreturned := (h.ask_begun organization).returned
  rw [← ht] at hreturned
  obtain ⟨d, hdecision, hd⟩ := exists_decisionOf? hreturned
  obtain ⟨later, hadvances, hcallers⟩ := hsettled.trans hawaited
  rw [hcheck]
  refine ⟨later, (ask_advances s organization).trans hadvances, fun caller other hmem => ?_, ?_⟩
  · obtain ⟨hge, hlt⟩ := hadvances.fresh caller other hmem
    omega
  · simp only [List.filterMap_cons, List.filterMap_nil, hdecision, List.headD_cons]
    exact hd

/-! ## Runs -/

theorem happens_of_mem_returns {r : Run} {caller : Nat} {d : Decision}
    (h : (caller, d) ∈ (trace r.lifetimes {} r.events).filterMap (·.2.return?)) :
    ∃ j organization origin, r.Happens j (.returned caller organization d origin) := by
  obtain ⟨⟨time, happening⟩, hmem, hreturn⟩ := List.mem_filterMap.mp h
  cases happening with
  | returned other organization d' origin =>
    cases hreturn
    obtain ⟨j, hj, -⟩ := Run.mem_trace_iff.mp hmem
    exact ⟨j, organization, origin, hj⟩
  | asked => cases hreturn
  | joined => cases hreturn

theorem eventAt_eq_new_check {lifetimes : Lifetimes} {caller i : Nat} {organization other : String}
    (hbefore : ∀ other, .check caller other ∉ events)
    (hlater : ∀ other, .check caller other ∉ later)
    (h : (Run.mk lifetimes (events ++ .check caller organization :: later)).eventAt i
      = .check caller other) :
    i = events.length ∧ other = organization := by
  unfold Run.eventAt at h
  rcases Nat.lt_trichotomy i events.length with hlt | rfl | hgt
  · rw [List.getElem?_append_left hlt, List.getElem?_eq_getElem hlt, Option.getD_some] at h
    exact absurd (h ▸ List.getElem_mem hlt) (hbefore other)
  · rw [List.getElem?_append_right (Nat.le_refl _), Nat.sub_self, List.getElem?_cons_zero,
      Option.getD_some] at h
    cases h
    exact ⟨rfl, rfl⟩
  · obtain ⟨n, hn⟩ : ∃ n, i - events.length = n + 1 := ⟨i - events.length - 1, by omega⟩
    rw [List.getElem?_append_right (Nat.le_of_lt hgt), hn, List.getElem?_cons_succ] at h
    cases hevent : later[n]? with
    | none =>
      rw [hevent] at h
      cases h
    | some e =>
      rw [hevent, Option.getD_some] at h
      exact absurd (h ▸ List.mem_of_getElem? hevent) (hlater other)

/-- **Scripted guards.**  Whatever a scripted guard has gone through is a run: the state that it is
    in is the last one of the run, and it has returned and asked what the run has.  A check always
    gives a decision, which is the one that a new check of a longer run returns. -/
theorem scripted_guard (lifetimes : Lifetimes) (instructions : List Instruction) :
    ∃ r : Run, r.lifetimes = lifetimes
      ∧ (after { lifetimes } instructions).guard = r.stateAt r.events.length
      ∧ (after { lifetimes } instructions).returns.reverse
        = (trace lifetimes {} r.events).filterMap (·.2.return?)
      ∧ (after { lifetimes } instructions).asked.reverse
        = (trace lifetimes {} r.events).filterMap (·.2.asked?)
      ∧ ∀ organization, ∃ longer : Run, longer.lifetimes = lifetimes
        ∧ r.events <+: longer.events
        ∧ ((after { lifetimes } instructions).check organization).2.guard
          = longer.stateAt longer.events.length
        ∧ ∃ i j caller origin, r.events.length ≤ i
          ∧ longer.CheckReturns i j caller organization
              ((after { lifetimes } instructions).check organization).1 origin := by
  obtain ⟨events, hevents⟩ := after_advances { lifetimes } instructions
  have hsound := (sound_initial lifetimes).after instructions
  generalize after { lifetimes } instructions = s at hevents hsound
  have hlast : ∀ events,
      run lifetimes {} events = (Run.mk lifetimes events).stateAt events.length :=
    fun events => by rw [Run.stateAt_eq_run, List.take_length]
  refine ⟨⟨lifetimes, events⟩, rfl, hevents.guard_eq.trans (hlast events), ?_, ?_, ?_⟩
  · rw [hevents.returns_eq, List.append_nil, List.reverse_reverse]
  · rw [hevents.asked_eq, List.append_nil, List.reverse_reverse]
  · intro organization
    obtain ⟨later, hcheck, hnone, hreturned⟩ := hsound.exists_check organization
    have hall := hevents.trans hcheck
    refine ⟨⟨lifetimes, events ++ .check s.callers organization :: later⟩, rfl,
      List.prefix_append _ _, hall.guard_eq.trans (hlast _), ?_⟩
    rw [hall.returns_eq, List.append_nil, List.mem_reverse] at hreturned
    obtain ⟨j, other, origin, hj⟩ := happens_of_mem_returns
      (r := ⟨lifetimes, events ++ .check s.callers organization :: later⟩) hreturned
    obtain ⟨i, hi⟩ := Run.check_of_returned hj
    refine ⟨i, j, s.callers, origin, ?_⟩
    have hbefore : ∀ other, .check s.callers other ∉ events := fun other hmem =>
      Nat.lt_irrefl _ (hevents.fresh s.callers other hmem).2
    obtain ⟨rfl, rfl⟩ := eventAt_eq_new_check hbefore (hnone s.callers) hi.begins
    exact ⟨Nat.le_refl _, hi⟩

end Simulation

end BlockMail.Guard
