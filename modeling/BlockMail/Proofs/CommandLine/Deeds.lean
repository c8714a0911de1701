import BlockMail.CommandLine.Run
import Mathlib.Tactic.Choose

/-! # What is asked of a host

Any host can be watched: each thing that it is asked for is noted with its answer.  `Records` says
that a computation does the same on the watched host as on the host itself, and what holds of its
result and of what was noted.
-/

namespace BlockMail.CommandLine

/-- Something that a host was asked for, with its answer. -/
inductive Deed where
  | read (path : String) (text : Option String)
  | madeFolder (path : String) (made : Bool)
  | wrote (path text : String) (written : Bool)
  | printed (text : String)
  | logged (event : LogEvent)
  | posted (request : Http.Request) (received : Except String Http.Response)

namespace Deed

/-- What appears on standard output, where `write` is what a watcher writes of an event. -/
def shown (write : LogEvent → String) : Deed → String
  | .printed text => text
  | .logged event => write event
  | _ => ""

def event? : Deed → Option LogEvent
  | .logged event => some event
  | _ => none

def exchange? : Deed → Option (Http.Request × Except String Http.Response)
  | .posted request received => some (request, received)
  | _ => none

/-- Files or folders are concerned. -/
def isOnFiles : Deed → Bool
  | .read .. | .madeFolder .. | .wrote .. => true
  | _ => false

end Deed

variable {m : Type → Type} [Monad m]

/-- A computation with a note of what it did. -/
def noted {α : Type} (deed : α → Deed) (x : m α) : StateT (List Deed) m α :=
  fun deeds => (fun a => (a, deeds ++ [deed a])) <$> x

/-- The host, watched. -/
def Host.watched (host : Host m) : Host (StateT (List Deed) m) where
  readText path := noted (.read path) (host.readText path)
  createFolder path := noted (.madeFolder path) (host.createFolder path)
  writeText path text := noted (.wrote path text) (host.writeText path text)
  print text := noted (fun _ => .printed text) (host.print text)
  log event := noted (fun _ => .logged event) (host.log event)
  post request := noted (.posted request) (host.post request)

/-- All that a computation can result in satisfies `r`. -/
def Gives {α : Type} (x : m α) (r : α → Prop) : Prop := ∃ z : m { a // r a }, Subtype.val <$> z = x

/-- `y` does what `x` does, with a note of it, and this holds of every result with what was noted
    on the way. -/
def Records {α : Type} (x : m α) (y : StateT (List Deed) m α) (p : α → List Deed → Prop) : Prop :=
  ∃ z : m { r : α × List Deed // p r.1 r.2 },
    (fun r => r.1.1) <$> z = x ∧ ∀ deeds, y deeds = (fun r => (r.1.1, deeds ++ r.1.2)) <$> z

theorem Gives.of_forall [LawfulMonad m] {α : Type} {r : α → Prop} (h : ∀ a, r a) (x : m α) :
    Gives x r := by
  refine ⟨(fun a => ⟨a, h a⟩) <$> x, ?_⟩
  rw [← comp_map]
  exact id_map x

namespace Records

variable [LawfulMonad m] {α β ε : Type} {p : α → List Deed → Prop} {q : β → List Deed → Prop}

theorem imp {x : m α} {y : StateT (List Deed) m α} {p' : α → List Deed → Prop}
    (h : Records x y p) (hp : ∀ a deeds, p a deeds → p' a deeds) : Records x y p' := by
  obtain ⟨z, hx, hy⟩ := h
  refine ⟨(fun r => ⟨r.1, hp _ _ r.2⟩) <$> z, ?_, fun deeds => ?_⟩
  · rw [← hx, ← comp_map]
    rfl
  · rw [hy, ← comp_map]
    rfl

theorem pure {a : α} (h : p a []) :
    Records (Pure.pure a : m α) (Pure.pure a : StateT (List Deed) m α) p := by
  refine ⟨Pure.pure ⟨(a, []), h⟩, map_pure _ _, fun deeds => ?_⟩
  rw [map_pure, List.append_nil]
  rfl

theorem noted {x : m α} {deed : α → Deed} {r : α → Prop} (hx : Gives x r)
    (h : ∀ a, r a → p a [deed a]) : Records x (CommandLine.noted deed x) p := by
  obtain ⟨z, rfl⟩ := hx
  refine ⟨(fun a => ⟨(a.1, [deed a.1]), h a.1 a.2⟩) <$> z, ?_, fun deeds => ?_⟩
  · rw [← comp_map]
    rfl
  · rw [CommandLine.noted, ← comp_map, ← comp_map]
    rfl

theorem bind {x : m α} {y : StateT (List Deed) m α} {f : α → m β}
    {g : α → StateT (List Deed) m β} (h : Records x y p)
    (hnext : ∀ a deeds, p a deeds → Records (f a) (g a) fun b more => q b (deeds ++ more)) :
    Records (x >>= f) (y >>= g) q := by
  obtain ⟨z, hx, hy⟩ := h
  choose next hf hg using fun r : { r : α × List Deed // p r.1 r.2 } => hnext r.1.1 r.1.2 r.2
  refine ⟨z >>= fun r => (fun r' => ⟨(r'.1.1, r.1.2 ++ r'.1.2), r'.2⟩) <$> next r, ?_,
    fun deeds => ?_⟩
  · rw [← hx, map_bind, bind_map_left]
    refine bind_congr fun r => ?_
    rw [← hf r, ← comp_map]
    rfl
  · show y deeds >>= (fun r => g r.1 r.2) = _
    rw [hy, bind_map_left, map_bind]
    refine bind_congr fun r => ?_
    rw [hg r, ← comp_map]
    simp only [List.append_assoc]
    rfl

theorem map {x : m α} {y : StateT (List Deed) m α} {f : α → β} (h : Records x y p)
    (hq : ∀ a deeds, p a deeds → q (f a) deeds) : Records (f <$> x) (f <$> y) q := by
  rw [map_eq_pure_bind, map_eq_pure_bind]
  exact h.bind fun a deeds ha => .pure (by simpa using hq a deeds ha)

theorem bindExcept {x : ExceptT ε m α} {y : ExceptT ε (StateT (List Deed) m) α}
    {f : α → ExceptT ε m β} {g : α → ExceptT ε (StateT (List Deed) m) β}
    {p : Except ε α → List Deed → Prop} {q : Except ε β → List Deed → Prop}
    (h : Records x.run y.run p) (herror : ∀ e deeds, p (.error e) deeds → q (.error e) deeds)
    (hok : ∀ a deeds, p (.ok a) deeds →
      Records (f a).run (g a).run fun b more => q b (deeds ++ more)) :
    Records (x >>= f).run (y >>= g).run q := by
  rw [ExceptT.run_bind, ExceptT.run_bind]
  refine h.bind fun r deeds hr => ?_
  cases r with
  | error e => exact .pure (by simpa using herror e deeds hr)
  | ok a => exact hok a deeds hr

theorem bindLift {x : m α} {y : StateT (List Deed) m α} {f : α → ExceptT ε m β}
    {g : α → ExceptT ε (StateT (List Deed) m) β} {q : Except ε β → List Deed → Prop}
    (h : Records x y p)
    (hnext : ∀ a deeds, p a deeds → Records (f a).run (g a).run fun b more => q b (deeds ++ more)) :
    Records (liftM x >>= f).run (liftM y >>= g).run q := by
  show Records (ExceptT.lift x >>= f).run (ExceptT.lift y >>= g).run q
  rw [ExceptT.run_bind_lift, ExceptT.run_bind_lift]
  exact h.bind hnext

/-- In a state there is one result, and both computations come to it. -/
theorem exists_result {σ : Type} {x : StateM σ α} {y : StateT (List Deed) (StateM σ) α}
    (h : Records x y p) (s : σ) :
    ∃ a deeds s', x s = (a, s') ∧ y [] s = ((a, deeds), s') ∧ p a deeds := by
  obtain ⟨z, rfl, hy⟩ := h
  refine ⟨(z s).1.1.1, (z s).1.1.2, (z s).2, rfl, ?_, (z s).1.2⟩
  rw [hy]
  rfl

end Records

namespace Host

variable [LawfulMonad m] (host : Host m)

theorem readText_records {path : String} {reads : Option String → Prop}
    (h : Gives (host.readText path) reads) :
    Records (host.readText path) (host.watched.readText path)
      fun text? deeds => reads text? ∧ deeds = [.read path text?] :=
  .noted h fun _ htext => ⟨htext, rfl⟩

theorem print_records (text : String) :
    Records (host.print text) (host.watched.print text) fun _ deeds => deeds = [.printed text] :=
  .noted (.of_forall (fun _ => trivial) _) fun _ _ => rfl

theorem log_records (event : LogEvent) :
    Records (host.log event) (host.watched.log event) fun _ deeds => deeds = [.logged event] :=
  .noted (.of_forall (fun _ => trivial) _) fun _ _ => rfl

theorem post_records {request : Http.Request} {answers : Except String Http.Response → Prop}
    (h : Gives (host.post request) answers) :
    Records (host.post request) (host.watched.post request)
      fun received deeds => answers received ∧ deeds = [.posted request received] :=
  .noted h fun _ hreceived => ⟨hreceived, rfl⟩

theorem logAll_records (events : List LogEvent) :
    Records (host.logAll events) (host.watched.logAll events)
      fun _ deeds => deeds = events.map .logged := by
  induction events with
  | nil => exact .pure rfl
  | cons event events ih =>
    refine (host.log_records event).bind ?_
    rintro - deeds rfl
    exact ih.imp fun _ more hmore => by rw [hmore]; rfl

end Host

end BlockMail.CommandLine
