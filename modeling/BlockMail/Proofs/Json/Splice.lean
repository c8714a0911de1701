import BlockMail.Proofs.Json.Tokens
import Mathlib.Data.List.Forall2

/-! # Lists within a text

A text that breaks off where a value may stand, goes on with a list of sound texts and then
goes on in any way.  The list is read as the array of what its items are on their own, and
how the rest is read does not depend on them: `tree?_splice`.  As far as the text is shown at all,
it is shown with the list complete: `shown_splice`.
-/

namespace BlockMail.Json

/-- Texts as the items of an array. -/
def listText (items : List String) : String := "[" ++ ",".intercalate items ++ "]"

namespace Builder

/-! ## Values inside containers -/

/-- The builder at work on a value inside the containers. -/
def under (outer : List Frame) : Builder → Builder
  | .value fs => .value (fs ++ outer)
  | .firstItem fs => .firstItem (fs ++ outer)
  | .item items fs => .item items (fs ++ outer)
  | .firstName fs => .firstName (fs ++ outer)
  | .name members fs => .name members (fs ++ outer)
  | .colon members label fs => .colon members label (fs ++ outer)
  | .member members fs => .member members (fs ++ outer)
  | .finished t => put t outer

section Values

variable {b c : Builder} {fs outer : List Frame} {f : Frame}

@[simp] theorem under_put (t : Tree) (fs outer : List Frame) :
    (put t fs).under outer = put t (fs ++ outer) := by
  cases fs with
  | nil => rfl
  | cons f fs => cases f <;> rfl

theorem step_under (h : b.isFinished = false) (t : Token) (outer : List Frame) :
    (b.under outer).step t = (b.step t).map (under outer) := by
  cases b with
  | finished => cases h
  | _ => cases t <;> first | rfl | exact congrArg some (under_put _ _ outer).symm

theorem isFinished_of_step {t : Token} (h : b.step t = some c) : b.isFinished = false := by
  cases b with
  | finished => cases h
  | _ => rfl

theorem run_cons {t : Token} (h : b.step t = some c) (ts : List Token) :
    b.run (t :: ts) = c.run ts := by
  rw [run, h]

theorem run_append {ts : List Token} (h : b.run ts = (c, true)) (us : List Token) :
    b.run (ts ++ us) = c.run us := by
  induction ts generalizing b with
  | nil =>
    cases h
    rfl
  | cons t ts ih =>
    rw [run] at h
    split at h
    · next d hstep => rw [List.cons_append, run_cons hstep, ih h]
    · cases h

theorem run_under {ts : List Token} (h : b.run ts = (c, true)) (outer : List Frame) :
    (b.under outer).run ts = (c.under outer, true) := by
  induction ts generalizing b with
  | nil =>
    cases h
    rfl
  | cons t ts ih =>
    rw [run] at h
    split at h
    · next d hstep =>
      have hunder := step_under (isFinished_of_step hstep) t outer
      rw [hstep, Option.map_some] at hunder
      rw [run_cons hunder, ih h]
    · cases h

theorem fault_notMem {ts : List Token} (h : b.run ts = (c, true)) : .fault ∉ ts := by
  induction ts generalizing b with
  | nil => exact List.not_mem_nil
  | cons t ts ih =>
    rw [run] at h
    split at h
    · next d hstep =>
      intro hmem
      rcases List.mem_cons.mp hmem with rfl | hmem
      · cases b <;> cases hstep
      · exact ih h hmem
    · cases h

/-! ## Lists -/

/-- The characters make up a text with the tree as its value. -/
def Spells (cs : List Char) (t : Tree) : Prop :=
  (Builder.value []).run (tokens cs) = (.finished t, true)

theorem Spells.run_append {cs x : List Char} {t : Tree} (h : Spells cs t) (hx : Delimited x)
    (outer : List Frame) :
    (Builder.value outer).run (tokens (cs ++ x)) = (put t outer).run (tokens x) := by
  rw [tokens_append (fault_notMem h) hx]
  exact Builder.run_append (run_under h outer) _

theorem Spells.first {cs : List Char} {t : Tree} (h : Spells cs t) :
    ∃ tok toks, ∃ c : Builder, tokens cs = tok :: toks
      ∧ ∀ outer, (Builder.value outer).step tok = some (c.under outer) := by
  unfold Spells at h
  cases htokens : tokens cs with
  | nil =>
    rw [htokens] at h
    cases h
  | cons tok toks =>
    rw [htokens, run] at h
    split at h
    · next c hstep =>
      refine ⟨tok, toks, c, rfl, fun outer => ?_⟩
      have hunder := step_under (b := .value []) rfl tok outer
      exact hunder.trans (congrArg _ hstep)
    · cases h

theorem tokens_closeArray (x : List Char) : tokens (']' :: x) = .closeArray :: tokens x :=
  tokens_of_nextToken? rfl

theorem tokens_comma (x : List Char) : tokens (',' :: x) = .comma :: tokens x :=
  tokens_of_nextToken? rfl

theorem tokens_openArray (x : List Char) : tokens ('[' :: x) = .openArray :: tokens x :=
  tokens_of_nextToken? rfl

theorem run_items {css : List (List Char)} {ts : List Tree} (h : List.Forall₂ Spells css ts)
    {cs : List Char} {t : Tree} (hhead : Spells cs t) (done : List Tree) (outer : List Frame)
    (x : List Char) :
    (Builder.value (.array done :: outer)).run
        (tokens ([','].intercalate (cs :: css) ++ ']' :: x))
      = (put (.array (done.reverse ++ t :: ts)) outer).run (tokens x) := by
  -- on the items behind the first, which is done when the next one is reached
  induction h generalizing cs t done with
  | nil =>
    rw [List.intercalate_singleton, hhead.run_append .closeArray, tokens_closeArray]
    simp [put, run, step]
  | @cons cs' t' css ts hcs _ ih =>
    rw [List.intercalate_cons_cons, List.append_assoc, List.append_assoc,
      List.singleton_append, hhead.run_append .comma, tokens_comma]
    show (Builder.value (.array (t :: done) :: outer)).run _ = _
    rw [ih hcs]
    simp

theorem step_firstItem {fs : List Frame} {t : Token}
    (h : (Builder.value (.array [] :: fs)).step t = some c) :
    (Builder.firstItem fs).step t = some c := by
  cases t <;> first | exact h | cases h

theorem run_list {css : List (List Char)} {ts : List Tree} (h : List.Forall₂ Spells css ts)
    (outer : List Frame) (x : List Char) :
    (Builder.value outer).run (tokens ('[' :: [','].intercalate css ++ ']' :: x))
      = (put (.array ts) outer).run (tokens x) := by
  rw [List.cons_append, tokens_openArray]
  show (Builder.firstItem outer).run _ = _
  cases h with
  | nil =>
    rw [List.intercalate_nil, List.nil_append, tokens_closeArray]
    rfl
  | @cons cs t css ts hhead htail =>
    refine .trans ?_ (run_items htail hhead [] outer x)
    obtain ⟨y, hy, hcut⟩ :
        ∃ y, Delimited y ∧ [','].intercalate (cs :: css) ++ ']' :: x = cs ++ y := by
      cases css with
      | nil => exact ⟨_, .closeArray, by rw [List.intercalate_singleton]⟩
      | cons cs' css => exact ⟨_, .comma, by simp [List.intercalate_cons_cons]; rfl⟩
    obtain ⟨tok, toks, c, htokens, hstep⟩ := Spells.first hhead
    rw [hcut, tokens_append (fault_notMem hhead) hy, htokens, List.cons_append,
      run_cons (step_firstItem (hstep _)), run_cons (hstep _)]

end Values

/-! ## What follows -/

/-- What a container becomes when it is completed after the value that it waits for. -/
inductive Completes : Frame → (Tree → Tree) → Prop where
  | object (after : List (List StringUnit × Tree)) : Completes (.member members key)
      fun t => .object (members.reverse ++ (key, t) :: after)
  | array (after : List Tree) : Completes (.array items)
      fun t => .array (items.reverse ++ t :: after)

/-- What a container becomes when it waits for another value. -/
inductive Grows : Frame → (Tree → Frame) → Prop where
  | member (newer : List (List StringUnit × Tree)) (label : List StringUnit) :
      Grows (.member members key) fun t => .member (newer ++ (key, t) :: members) label
  | array (newer : List Tree) : Grows (.array items) fun t => .array (newer ++ t :: items)

/-- How far the outermost container may have come once it has the value it waited for. -/
inductive Beyond : Frame → (Tree → Builder) → Prop where
  | member (newer : List (List StringUnit × Tree)) : Beyond (.member members key)
      fun t => .member (newer ++ (key, t) :: members) []
  | name (newer : List (List StringUnit × Tree)) : Beyond (.member members key)
      fun t => .name (newer ++ (key, t) :: members) []
  | colon (newer : List (List StringUnit × Tree)) (label : List StringUnit) :
      Beyond (.member members key) fun t => .colon (newer ++ (key, t) :: members) label []
  | item (newer : List Tree) : Beyond (.array items) fun t => .item (newer ++ t :: items) []
  | within (b : Builder) (hb : b.isFinished = false) (hg : Grows f g) :
      Beyond f fun t => b.under [g t]
  | complete (h : Completes f result) : Beyond f fun t => .finished (result t)

variable {b : Builder} {f : Frame} {σ : Tree → Builder} {g : Tree → Frame}

theorem Beyond.start (f : Frame) : Beyond f fun t => put t [f] := by
  cases f with
  | array items => exact .item []
  | member members key => exact .member []

theorem Grows.put (h : Grows f g) (u : Tree) : Beyond f fun t => Builder.put u [g t] := by
  cases h with
  | member newer label => exact .member ((label, u) :: newer)
  | array newer => exact .item (u :: newer)

/-- The value does not matter to what may come next. -/
theorem Beyond.step (h : Beyond f σ) (tok : Token) :
    (∀ t, (σ t).step tok = none) ∨ ∃ τ, Beyond f τ ∧ ∀ t, (σ t).step tok = some (τ t) := by
  cases h with
  | member newer =>
    cases tok with
    | comma => exact .inr ⟨_, .name newer, fun t => rfl⟩
    | closeObject =>
      refine .inr ⟨_, .complete (.object newer.reverse), fun t => ?_⟩
      simp [Builder.step, Builder.put]
    | _ => exact .inl fun t => rfl
  | name newer =>
    cases tok with
    | string us => exact .inr ⟨_, .colon newer us, fun t => rfl⟩
    | _ => exact .inl fun t => rfl
  | colon newer label =>
    cases tok with
    | colon => exact .inr ⟨_, .within (.value []) rfl (.member newer label), fun t => rfl⟩
    | _ => exact .inl fun t => rfl
  | item newer =>
    cases tok with
    | comma => exact .inr ⟨_, .within (.value []) rfl (.array newer), fun t => rfl⟩
    | closeArray =>
      refine .inr ⟨_, .complete (.array newer.reverse), fun t => ?_⟩
      simp [Builder.step, Builder.put]
    | _ => exact .inl fun t => rfl
  | @within _ g b hb hg =>
    cases hstep : b.step tok with
    | none => exact .inl fun t => by rw [step_under hb, hstep, Option.map_none]
    | some c =>
      right
      cases c with
      | finished u =>
        exact ⟨_, hg.put u, fun t => by rw [step_under hb, hstep, Option.map_some, under]⟩
      | _ => exact ⟨_, .within _ rfl hg, fun t => by rw [step_under hb, hstep, Option.map_some]⟩
  | complete => exact .inl fun t => rfl

theorem Beyond.run (h : Beyond f σ) (toks : List Token) :
    ∃ τ all, Beyond f τ ∧ ∀ t, (σ t).run toks = (τ t, all) := by
  induction toks generalizing σ with
  | nil => exact ⟨σ, true, h, fun t => rfl⟩
  | cons tok toks ih =>
    rcases h.step tok with hnone | ⟨τ, hτ, hstep⟩
    · exact ⟨σ, false, h, fun t => by rw [Builder.run, hnone]⟩
    · obtain ⟨υ, all, hυ, hrun⟩ := ih hτ
      exact ⟨υ, all, hυ, fun t => by rw [run_cons (hstep t), hrun]⟩

theorem isFinished_under (h : b.isFinished = false) (f : Frame) :
    (b.under [f]).isFinished = false := by
  cases b with
  | finished => cases h
  | _ => rfl

theorem Beyond.completes {t : Tree} (h : Beyond f σ) (hfinished : (σ t).isFinished) :
    ∃ result, Completes f result ∧ σ = fun t => .finished (result t) := by
  cases h with
  | complete hcomplete => exact ⟨_, hcomplete, rfl⟩
  | within b hb _ =>
    rw [isFinished_under hb] at hfinished
    cases hfinished
  | _ => cases hfinished

theorem outermost?_under (h : b.isFinished = false) (f : Frame) :
    (b.under [f]).outermost? = some f.container := by
  cases b with
  | finished => cases h
  | _ => simp [under, outermost?, outermostOf]

theorem Grows.completes (h : Grows f g) :
    ∃ result, Completes f result ∧ ∀ t, (g t).container = result t := by
  cases h with
  | member newer label => exact ⟨_, .object newer.reverse, fun t => by simp [Frame.container]⟩
  | array newer => exact ⟨_, .array newer.reverse, fun t => by simp [Frame.container]⟩

theorem Beyond.outermost? (h : Beyond f σ) :
    ∃ result, Completes f result ∧ ∀ t, (σ t).outermost? = some (result t) := by
  cases h with
  | member newer | name newer | colon newer _ =>
    exact ⟨_, .object newer.reverse, fun t => by simp [Builder.outermost?, outermostOf]⟩
  | item newer =>
    exact ⟨_, .array newer.reverse, fun t => by simp [Builder.outermost?, outermostOf]⟩
  | within b hb hg =>
    obtain ⟨result, hresult, hcontainer⟩ := hg.completes
    exact ⟨result, hresult, fun t => by rw [outermost?_under hb, hcontainer]⟩
  | complete h => exact ⟨_, h, fun t => rfl⟩

end Builder

open Builder (Spells Completes Beyond)

theorem toList_listText (items : List String) :
    (listText items).toList = '[' :: ([','].intercalate (items.map String.toList) ++ [']']) := by
  unfold listText
  simp

theorem tree?_eq_some_iff {s : String} {t : Tree} :
    (read s).tree? = some t ↔ Spells s.toList t := by
  unfold Reading.tree? read Spells
  generalize (Builder.value []).run (tokens s.toList) = r
  obtain ⟨b, all⟩ := r
  cases all <;> cases b <;> simp [Builder.isFinished, Builder.outermost?]

/-- A list whose items are sound texts is read as the array of their trees, and what comes behind
    it is read alike for all of them. -/
theorem run_splice {f : Frame} {pre : String}
    (hpre : (Builder.value []).run (tokens pre.toList) = (.value [f], true)) (post : String) :
    ∃ τ all, Beyond f τ ∧ ∀ (items : List String) (ts : List Tree),
      items.map (fun e => (read e).tree?) = ts.map some →
      (Builder.value []).run (tokens (pre ++ listText items ++ post).toList)
        = (τ (.array ts), all) := by
  obtain ⟨τ, all, hτ, hrun⟩ := (Beyond.start f).run (tokens post.toList)
  refine ⟨τ, all, hτ, fun items ts hitems => ?_⟩
  have hspells : List.Forall₂ Spells (items.map String.toList) ts := by
    rw [← List.forall₂_eq_eq_eq, List.forall₂_map_left_iff, List.forall₂_map_right_iff] at hitems
    exact List.forall₂_map_left_iff.mpr (hitems.imp fun _ _ h => tree?_eq_some_iff.mp h)
  rw [String.toList_append, String.toList_append, toList_listText, List.append_assoc,
    List.cons_append, tokens_append (Builder.fault_notMem hpre) .openArray,
    Builder.run_append hpre, List.append_assoc, List.singleton_append, ← List.cons_append,
    Builder.run_list hspells, hrun]

/-- What a text is shown as that goes on with a list: the outermost container with the array of the
    list in it, also where the text breaks off behind the list. -/
theorem shown_splice {f : Frame} {pre : String}
    (hpre : (Builder.value []).run (tokens pre.toList) = (.value [f], true)) (post : String) :
    ∃ result, Completes f result ∧ ∀ (items : List String) (ts : List Tree),
      items.map (fun e => (read e).tree?) = ts.map some →
      (read (pre ++ listText items ++ post)).shown = some (result (.array ts)) := by
  obtain ⟨τ, all, hτ, hrun⟩ := run_splice hpre post
  obtain ⟨result, hresult, hshown⟩ := hτ.outermost?
  refine ⟨result, hresult, fun items ts hitems => ?_⟩
  unfold read
  rw [hrun items ts hitems]
  exact hshown _

theorem tree?_splice {f : Frame} {pre : String}
    (hpre : (Builder.value []).run (tokens pre.toList) = (.value [f], true)) (post : String) :
    ∃ result? : Option (Tree → Tree), (∀ result ∈ result?, Completes f result)
      ∧ ∀ (items : List String) (ts : List Tree),
        items.map (fun e => (read e).tree?) = ts.map some →
        (read (pre ++ listText items ++ post)).tree?
          = result?.map fun result => result (.array ts) := by
  obtain ⟨τ, all, hτ, hread⟩ := run_splice hpre post
  -- the text has a value if the outermost container is completed, whatever the list is
  by_cases hcomplete : all = true ∧ ∃ result, Completes f result ∧ τ = fun t => .finished (result t)
  · obtain ⟨rfl, result, hresult, rfl⟩ := hcomplete
    refine ⟨some result, fun r hr => Option.some.inj hr ▸ hresult, fun items ts hitems => ?_⟩
    exact tree?_eq_some_iff.mpr (hread items ts hitems)
  · refine ⟨none, ⟨nofun, fun items ts hitems => Option.eq_none_iff_forall_ne_some.mpr ?_⟩⟩
    intro t ht
    have hrun := (hread items ts hitems).symm.trans (tree?_eq_some_iff.mp ht)
    obtain ⟨hfinished, hall⟩ := Prod.mk.inj hrun
    refine hcomplete ⟨hall, hτ.completes (t := .array ts) ?_⟩
    rw [hfinished]
    rfl

end BlockMail.Json
