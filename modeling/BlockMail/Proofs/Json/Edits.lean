import BlockMail.Proofs.Json.Denotation

/-! # Edits that a structure does not notice

In an object a field whose value is `null` may be removed, and a member may be added that is for no
field.  `Edited` says that one source comes from another in this way, with edits of a further kind
inside some of its fields.  What is left of that for a reader is `Alike`: the two sources have the
same record, but for fields that are `null` in one and missing in the other.  A field that is read
by `Record.optional` or `Record.orElse` cannot tell these apart.

A text and its value are edited alike (`Alike.denotes`), as long as what is added has a value.
-/

namespace BlockMail.Json

variable {α β γ : Type} [Source α] {fields : List Field} {ok : α → Prop}
  {inside inside' : Nat → α → α → Prop} {a a' : α}

instance (fields : List Field) (m n : String) : Decidable (Apart fields m n) :=
  inferInstanceAs (Decidable (∀ i ∈ fieldOf? fields m, i ∉ fieldOf? fields n))

/-! ## Edits -/

/-- Edits of the members of an object.  What is added is `ok`, and what stands for a field may
    itself be edited, in a way that depends on the field. -/
inductive MembersEdited (fields : List Field) (ok : α → Prop) (inside : Nat → α → α → Prop) :
    List (String × α) → List (String × α) → Prop
  | nil : MembersEdited fields ok inside [] []
  | keep (m : String × α) {ms ms' : List (String × α)} (h : MembersEdited fields ok inside ms ms') :
      MembersEdited fields ok inside (m :: ms) (m :: ms')
  | change {name : String} {i : Nat} {b b' : α} {ms ms' : List (String × α)}
      (hname : fieldOf? fields name = some i) (hinside : inside i b b')
      (h : MembersEdited fields ok inside ms ms') :
      MembersEdited fields ok inside ((name, b) :: ms) ((name, b') :: ms')
  | remove {name : String} {i : Nat} {b : α} {ms ms' : List (String × α)}
      (hname : fieldOf? fields name = some i) (hnull : isNull b = true)
      (h : MembersEdited fields ok inside ms ms') :
      MembersEdited fields ok inside ((name, b) :: ms) ms'
  | add {name : String} {b : α} {ms ms' : List (String × α)}
      (hname : fieldOf? fields name = none) (hok : ok b)
      (h : MembersEdited fields ok inside ms ms') :
      MembersEdited fields ok inside ms ((name, b) :: ms')

/-- Edits of a structure: of an object in which no field comes twice, or inside the fields of an
    array.  Where a name is no text, all that counts is that it still is none. -/
inductive Edited (fields : List Field) (ok : α → Prop) (inside : Nat → α → α → Prop) :
    α → α → Prop
  | same (a : α) : Edited fields ok inside a a
  | object {a a' : α} {ms ms' : List (String × α)} {sound : Bool}
      (hview : view a = .object ms sound) (hview' : view a' = .object ms' sound)
      (hapart : ms.Pairwise fun m n => Apart fields m.1 n.1)
      (h : MembersEdited fields ok inside ms ms') : Edited fields ok inside a a'
  | array {a a' : α} {items items' : List α} (hview : view a = .array items)
      (hview' : view a' = .array items') (hlength : items.length = items'.length)
      (hfit : items.length ≤ fields.length)
      (h : ∀ i, ∀ b ∈ items[i]?, ∀ b' ∈ items'[i]?, b = b' ∨ inside i b b') :
      Edited fields ok inside a a'

/-- No edits inside any field. -/
def nowhere (_ : Nat) (_ _ : α) : Prop := False

/-- Anything may be added. -/
def anything (_ : α) : Prop := True

/-- Only what has a value may be added. -/
def Readable (a : α) : Prop := (value? a).isSome = true

/-! ## What a record is left with -/

/-- What is written for a field before edits and after them. -/
inductive SlotAlike (inside : α → α → Prop) : Option α → Option α → Prop
  | same (slot : Option α) : SlotAlike inside slot slot
  | changed {b b' : α} (h : inside b b') : SlotAlike inside (some b) (some b')
  | dropped {b : α} (h : isNull b = true) : SlotAlike inside (some b) none

/-- Two records that differ by edits only. -/
def Record.Alike (inside : Nat → α → α → Prop) (r r' : Record α) : Prop :=
  ∀ i, SlotAlike (inside i) (r.slot? i) (r'.slot? i)

/-- Two sources whose records differ by edits only, or that are objects without records. -/
inductive Alike (fields : List Field) (inside : Nat → α → α → Prop) : α → α → Prop
  | same (a : α) : Alike fields inside a a
  | unsound {a a' : α} {ms ms' : List (String × α)} (hview : view a = .object ms false)
      (hview' : view a' = .object ms' false) : Alike fields inside a a'
  | records {a a' : α} {r r' : Record α} (hr : Record.read? fields a = some r)
      (hr' : Record.read? fields a' = some r') (h : r.Alike inside r') : Alike fields inside a a'

/-- Two sources whose records differ by edits only, or that have none. -/
def RecordsAlike (fields : List Field) (inside : Nat → α → α → Prop) (a a' : α) : Prop :=
  Option.Rel (Record.Alike inside) (Record.read? fields a) (Record.read? fields a')

theorem SlotAlike.imp {P Q : α → α → Prop} {o o' : Option α} (h : SlotAlike P o o')
    (hPQ : ∀ b b', P b b' → Q b b') : SlotAlike Q o o' := by
  cases h with
  | same => exact .same _
  | changed h => exact .changed (hPQ _ _ h)
  | dropped h => exact .dropped h

theorem Alike.imp (h : Alike fields inside a a')
    (himp : ∀ i b b', inside i b b' → inside' i b b') : Alike fields inside' a a' := by
  cases h with
  | same => exact .same _
  | unsound hview hview' => exact .unsound hview hview'
  | records hr hr' h => exact .records hr hr' fun i => (h i).imp (himp i)

namespace MembersEdited

variable {ms ms' : List (String × α)}

theorem exists_of_mem (h : MembersEdited fields ok inside ms ms') {m' : String × α} (hm : m' ∈ ms')
    {i : Nat} (hi : fieldOf? fields m'.1 = some i) : ∃ m ∈ ms, fieldOf? fields m.1 = some i := by
  induction h with
  | nil => cases hm
  | keep m _ ih =>
    rcases List.mem_cons.mp hm with rfl | hm
    · exact ⟨m', .head _, hi⟩
    · obtain ⟨n, hn, hni⟩ := ih hm
      exact ⟨n, .tail _ hn, hni⟩
  | @change name j b _ _ _ _ _ _ ih =>
    rcases List.mem_cons.mp hm with rfl | hm
    · exact ⟨(name, b), .head _, hi⟩
    · obtain ⟨n, hn, hni⟩ := ih hm
      exact ⟨n, .tail _ hn, hni⟩
  | remove _ _ _ ih =>
    obtain ⟨n, hn, hni⟩ := ih hm
    exact ⟨n, .tail _ hn, hni⟩
  | add hname _ _ ih =>
    rcases List.mem_cons.mp hm with rfl | hm
    · rw [hname] at hi
      cases hi
    · exact ih hm

theorem apart_of_forall (h : MembersEdited fields ok inside ms ms') {name : String}
    (hname : ∀ m ∈ ms, Apart fields name m.1) : ∀ m' ∈ ms', Apart fields name m'.1 := by
  intro m' hm' i hi hi'
  obtain ⟨m, hm, hmi⟩ := h.exists_of_mem hm' hi'
  exact hname m hm i hi hmi

theorem pairwise_apart (h : MembersEdited fields ok inside ms ms')
    (hapart : ms.Pairwise fun m n => Apart fields m.1 n.1) :
    ms'.Pairwise fun m n => Apart fields m.1 n.1 := by
  induction h with
  | nil => exact .nil
  | keep m h ih | change _ _ h ih =>
    obtain ⟨hfirst, hrest⟩ := List.pairwise_cons.mp hapart
    exact List.pairwise_cons.mpr ⟨h.apart_of_forall hfirst, ih hrest⟩
  | remove _ _ _ ih => exact ih (List.pairwise_cons.mp hapart).2
  | add hname _ _ ih =>
    refine List.pairwise_cons.mpr ⟨fun m _ i hi => ?_, ih hapart⟩
    rw [hname] at hi
    cases hi

theorem slotAlike (h : MembersEdited fields ok inside ms ms')
    (hapart : ms.Pairwise fun m n => Apart fields m.1 n.1) (i : Nat) :
    SlotAlike (inside i) ((ms.find? fun m => fieldOf? fields m.1 == some i).map (·.2))
      ((ms'.find? fun m => fieldOf? fields m.1 == some i).map (·.2)) := by
  induction h with
  | nil => exact .same none
  | keep m _ ih =>
    have hrest := ih (List.pairwise_cons.mp hapart).2
    rw [List.find?_cons, List.find?_cons]
    split
    · exact .same _
    · exact hrest
  | @change name j b b' _ _ hname hinside _ ih =>
    have hrest := ih (List.pairwise_cons.mp hapart).2
    rw [List.find?_cons, List.find?_cons, hname]
    by_cases hj : j = i
    · subst hj
      simpa using .changed hinside
    · simpa [beq_eq_false_iff_ne.mpr hj] using hrest
  | @remove name j b ms ms' hname hnull h ih =>
    obtain ⟨hfirst, hrest⟩ := List.pairwise_cons.mp hapart
    rw [List.find?_cons, hname]
    by_cases hj : j = i
    · subst hj
      have hnone : ms'.find? (fun m => fieldOf? fields m.1 == some j) = none :=
        List.find?_eq_none.mpr fun m' hm' hi =>
          h.apart_of_forall hfirst m' hm' j hname (eq_of_beq hi)
      simpa [hnone] using .dropped hnull
    · simpa [beq_eq_false_iff_ne.mpr hj] using ih hrest
  | add hname _ _ ih =>
    rw [List.find?_cons, hname]
    exact ih hapart

end MembersEdited

theorem Edited.alike (h : Edited fields ok inside a a') : Alike fields inside a a' := by
  cases h with
  | same => exact .same a
  | @object _ _ _ sound hview hview' hapart h =>
    cases sound with
    | false => exact .unsound hview hview'
    | true =>
      obtain ⟨r, hr⟩ := Record.exists_read?_of_apart hview hapart
      obtain ⟨r', hr'⟩ := Record.exists_read?_of_apart hview' (h.pairwise_apart hapart)
      refine .records hr hr' fun i => ?_
      rw [Record.slot?_of_object hview hr, Record.slot?_of_object hview' hr']
      exact h.slotAlike hapart i
  | @array _ items items' hview hview' hlength hfit h =>
    -- an array names its fields by position, and its length does not change
    have hr : Record.read? fields a = _ := Record.read?_of_array hview
    have hr' : Record.read? fields a' = _ := Record.read?_of_array hview'
    rw [if_pos hfit] at hr
    rw [if_pos (hlength ▸ hfit)] at hr'
    refine .records hr hr' fun i => ?_
    rw [Record.slot?_of_array hview hr, Record.slot?_of_array hview' hr']
    split
    · by_cases hi : i < items.length
      · have hi' : i < items'.length := hlength ▸ hi
        have hitem := h i _ (List.getElem?_eq_getElem hi) _ (List.getElem?_eq_getElem hi')
        rw [List.getElem?_eq_getElem hi, List.getElem?_eq_getElem hi']
        rcases hitem with heq | hinside
        · rw [heq]
          exact .same _
        · exact .changed hinside
      · rw [List.getElem?_eq_none (Nat.le_of_not_lt hi),
          List.getElem?_eq_none (hlength ▸ Nat.le_of_not_lt hi)]
        exact .same none
    · exact .same none

/-! ## What readers see -/

omit [Source α] in
theorem rel_bind {P : α → β → Prop} {Q : γ → γ → Prop} {o : Option α} {o' : Option β}
    {f : α → Option γ} {g : β → Option γ} (h : Option.Rel P o o')
    (hfg : ∀ x y, P x y → Option.Rel Q (f x) (g y)) : Option.Rel Q (o.bind f) (o'.bind g) := by
  cases h with
  | none => exact .none
  | some h => exact hfg _ _ h

omit [Source α] in
theorem rel_map {γ' : Type} {P : α → β → Prop} {Q : γ → γ' → Prop} {o : Option α} {o' : Option β}
    {f : α → γ} {g : β → γ'} (h : Option.Rel P o o') (hfg : ∀ x y, P x y → Q (f x) (g y)) :
    Option.Rel Q (o.map f) (o'.map g) := by
  cases h with
  | none => exact .none
  | some h => exact .some (hfg _ _ h)

omit [Source α] in
theorem rel_bind_same {Q : γ → γ → Prop} {o : Option α} {f g : α → Option γ}
    (hfg : ∀ x, Option.Rel Q (f x) (g x)) : Option.Rel Q (o.bind f) (o.bind g) := by
  cases o with
  | none => exact .none
  | some x => exact hfg x

omit [Source α] in
theorem rel_imp {P Q : α → α → Prop} {o o' : Option α} (h : Option.Rel P o o')
    (hPQ : ∀ a a', P a a' → Q a a') : Option.Rel Q o o' := by
  cases h with
  | none => exact .none
  | some h => exact .some (hPQ _ _ h)

omit [Source α] in
theorem eq_of_rel {o o' : Option α} (h : Option.Rel (· = ·) o o') : o = o' := by
  cases h with
  | none => rfl
  | some h => rw [h]

omit [Source α] in
theorem rel_refl {P : α → α → Prop} (hP : ∀ a, P a a) (o : Option α) : Option.Rel P o o := by
  cases o with
  | none => exact .none
  | some a => exact .some (hP a)

namespace Record.Alike

variable {r r' : Record α}

theorem rel_optional (h : r.Alike inside r') {i : Nat} {item : α → Option β}
    {S : Option β → Option β → Prop} (hS : ∀ o, S o o)
    (hitem : ∀ b b', inside i b b' → Option.Rel S (readNullable item b) (readNullable item b')) :
    Option.Rel S (r.optional i item) (r'.optional i item) := by
  have hslot := h i
  unfold Record.optional
  generalize r.slot? i = o, r'.slot? i = o' at hslot ⊢
  cases hslot with
  | same => exact rel_refl hS _
  | changed hinside => exact hitem _ _ hinside
  | dropped hnull =>
    simp only [readNullable, if_pos hnull]
    exact .some (hS none)

theorem rel_orElse (h : r.Alike inside r') {i : Nat} {item : α → Option β} {default : β}
    {S : β → β → Prop} (hS : ∀ b, S b b)
    (hitem : ∀ b b', inside i b b' → isNull b = isNull b' ∧ Option.Rel S (item b) (item b')) :
    Option.Rel S (r.orElse i default item) (r'.orElse i default item) := by
  have hoptional := h.rel_optional (S := fun o o' => S (o.getD default) (o'.getD default))
    (i := i) (fun o => hS _) fun b b' hinside => by
      obtain ⟨hnull, hb⟩ := hitem b b' hinside
      unfold readNullable
      rw [hnull]
      split
      · exact .some (hS _)
      · exact rel_map hb fun _ _ h => h
  exact rel_map hoptional fun _ _ h => h

theorem optional_eq (h : r.Alike inside r') {i : Nat} {item : α → Option β}
    (hitem : ∀ b b', inside i b b' → readNullable item b = readNullable item b') :
    r.optional i item = r'.optional i item := by
  refine eq_of_rel (h.rel_optional (fun _ => rfl) fun b b' hinside => ?_)
  rw [hitem b b' hinside]
  exact rel_refl (fun _ => rfl) _

theorem orElse_eq (h : r.Alike inside r') {i : Nat} {item : α → Option β} {default : β}
    (hitem : ∀ b b', inside i b b' → readNullable item b = readNullable item b') :
    r.orElse i default item = r'.orElse i default item :=
  congrArg (Option.map _) (h.optional_eq hitem)

end Record.Alike

theorem Alike.recordsAlike (h : Alike fields inside a a') : RecordsAlike fields inside a a' := by
  cases h with
  | same => exact rel_refl (fun _ _ => .same _) _
  | unsound hview hview' =>
    rw [RecordsAlike, Record.read?_of_unsound hview, Record.read?_of_unsound hview']
    exact .none
  | records hr hr' h =>
    rw [RecordsAlike, hr, hr']
    exact .some h

theorem RecordsAlike.imp (h : RecordsAlike fields inside a a')
    (himp : ∀ i b b', inside i b b' → inside' i b b') : RecordsAlike fields inside' a a' :=
  rel_imp h fun _ _ halike i => (halike i).imp (himp i)

theorem RecordsAlike.read_eq (h : RecordsAlike fields inside a a') {f : Record α → Option β}
    (hf : ∀ r r', r.Alike inside r' → f r = f r') :
    (Record.read? fields a).bind f = (Record.read? fields a').bind f :=
  eq_of_rel (rel_bind h fun r r' halike => by
    rw [hf r r' halike]
    exact rel_refl (fun _ => rfl) _)

theorem Alike.rel_read (h : Alike fields inside a a') {f : Record α → Option β} {S : β → β → Prop}
    (hf : ∀ r r', r.Alike inside r' → Option.Rel S (f r) (f r')) :
    Option.Rel S ((Record.read? fields a).bind f) ((Record.read? fields a').bind f) :=
  rel_bind h.recordsAlike hf

theorem Alike.read_eq (h : Alike fields inside a a') {f : Record α → Option β}
    (hf : ∀ r r', r.Alike inside r' → f r = f r') :
    (Record.read? fields a).bind f = (Record.read? fields a').bind f :=
  h.recordsAlike.read_eq hf

theorem isNull_of_read? {r : Record α} (h : Record.read? fields a = some r) : isNull a = false := by
  unfold Record.read? arrivals? at h
  unfold isNull
  generalize view a = x at h ⊢
  cases x <;> first | rfl | cases h

theorem Alike.isNull_eq (h : Alike fields inside a a') : isNull a = isNull a' := by
  cases h with
  | same => rfl
  | unsound hview hview' =>
    unfold isNull
    rw [hview, hview']
  | records hr hr' => rw [isNull_of_read? hr, isNull_of_read? hr']

/-! ## Dictionaries -/

/-- Edits inside the members of a dictionary. -/
inductive DictEdited (inside : α → α → Prop) : α → α → Prop
  | members {a a' : α} {ms ms' : List (String × α)} {sound : Bool}
      (hview : view a = .object ms sound) (hview' : view a' = .object ms' sound)
      (h : List.Forall₂ (fun m m' => m.1 = m'.1 ∧ (m.2 = m'.2 ∨ inside m.2 m'.2)) ms ms') :
      DictEdited inside a a'

theorem DictEdited.isNull_eq {R : α → α → Prop} (h : DictEdited R a a') : isNull a = isNull a' := by
  obtain ⟨hview, hview', -⟩ := h
  unfold isNull
  rw [hview, hview']

theorem readDict_of_edited {R : α → α → Prop} {item : α → Option β} (h : DictEdited R a a')
    (hitem : ∀ b b', R b b' → item b = item b') : readDict item a = readDict item a' := by
  obtain @⟨ms, ms', sound, hview, hview', h⟩ := h
  have hmembers : (ms.mapM fun m => (item m.2).map fun b => (m.1, b))
      = ms'.mapM fun m => (item m.2).map fun b => (m.1, b) := by
    -- the induction is on the edit, and the views speak of the whole list
    clear hview hview'
    induction h with
    | nil => rfl
    | @cons m m' _ _ hm _ ih =>
      obtain ⟨hname, hvalue⟩ := hm
      have heq : item m.2 = item m'.2 := by
        rcases hvalue with heq | hinside
        · rw [heq]
        · exact hitem _ _ hinside
      rw [List.mapM_cons, List.mapM_cons, ih, hname, heq]
  unfold readDict
  rw [hview, hview']
  cases sound with
  | false => rfl
  | true => exact congrArg (Option.map _) hmembers

theorem readDict_eq_none {item : α → Option β} {ms : List (String × α)} {sound : Bool}
    (hview : view a = .object ms sound) {m : String × α} (hm : m ∈ ms) (hitem : item m.2 = none) :
    readDict item a = none := by
  unfold readDict
  rw [hview]
  cases sound with
  | false => rfl
  | true =>
    refine Option.map_eq_none_iff.mpr ?_
    clear hview
    induction hm with
    | head => simp [List.mapM_cons, hitem]
    | tail n _ ih =>
      rw [List.mapM_cons, ih]
      cases (item n.2).map fun b => (n.1, b) <;> rfl

/-! ## Edits of a text and of its value -/

theorem Placed.Denotes.unique {p : Placed} {v w : Value} (hv : p.Denotes v) (hw : p.Denotes w) :
    v = w :=
  Option.some.inj (hv.symm.trans hw)

theorem not_denotes_of_unsound {p : Placed} {ms : List (String × Placed)}
    (hview : view p = .object ms false) (v : Value) : ¬ p.Denotes v := by
  intro hv
  have hlayers := view_agrees hv
  rw [hview] at hlayers
  cases hlayers

theorem SlotAlike.denotes {inText : Placed → Placed → Prop} {inValue : Value → Value → Prop}
    {o o' : Option Placed} {u u' : Option Value} (h : SlotAlike inText o o')
    (hu : Option.Rel Placed.Denotes o u) (hu' : Option.Rel Placed.Denotes o' u')
    (hinside : ∀ b b' w w', inText b b' → b.Denotes w → b'.Denotes w' → inValue w w') :
    SlotAlike inValue u u' := by
  cases h with
  | same =>
    cases hu with
    | none => cases hu' with | none => exact .same none
    | some hw =>
      cases hu' with
      | some hw' =>
        rw [hw.unique hw']
        exact .same _
  | changed hchange =>
    cases hu with
    | some hw => cases hu' with | some hw' => exact .changed (hinside _ _ _ _ hchange hw hw')
  | dropped hnull =>
    cases hu with
    | some hw => cases hu' with | none => exact .dropped (isNull_denotes hw ▸ hnull)

/-- What the edits of a text come to in its value. -/
theorem Alike.denotes {inText : Nat → Placed → Placed → Prop} {inValue : Nat → Value → Value → Prop}
    {p p' : Placed} {v v' : Value} (h : Alike fields inText p p') (hv : p.Denotes v)
    (hv' : p'.Denotes v')
    (hinside : ∀ r, Record.read? fields p = some r → ∀ i b b' w w', inText i b b' →
      b.Denotes w → b'.Denotes w' → inValue i w w') :
    Alike fields inValue v v' := by
  cases h with
  | same =>
    rw [hv.unique hv']
    exact .same v'
  | unsound hview => exact absurd hv (not_denotes_of_unsound hview v)
  | @records _ r r' hr hr' h =>
    obtain ⟨s, hs, hagree⟩ := Record.read?_denotes hv hr
    obtain ⟨s', hs', hagree'⟩ := Record.read?_denotes hv' hr'
    exact .records hs hs' fun i => (h i).denotes (hagree i) (hagree' i) (hinside r hr i)

/-! ## Edits keep a text readable -/

/-- A layer with nothing inside that is not `null`. -/
def View.plain {δ : Type} : View δ → Bool
  | .null | .array _ | .object _ _ => false
  | _ => true

theorem view_of_isNull (h : isNull a = true) : view a = .null := by
  unfold isNull at h
  split at h
  · assumption
  · cases h

/-- A text by its outermost layer: `null`, a container that may be opened, or something else. -/
inductive Placed.Shape : Placed → Prop
  | null (room : Nat) : Shape ⟨room, .null⟩
  | array (room : Nat) (items : List Tree) : Shape ⟨room + 1, .array items⟩
  | object (room : Nat) (members : List (List StringUnit × Tree)) :
      Shape ⟨room + 1, .object members⟩
  | other {p : Placed} (h : p.view.plain = true) : Shape p

theorem Placed.shape (p : Placed) : p.Shape := by
  obtain ⟨room, t⟩ := p
  cases t with
  | null => exact .null room
  | bool => exact .other rfl
  | number n =>
    refine .other ?_
    cases hn : n.number? with
    | none => simp only [Placed.view, hn, View.plain]
    | some number => cases number <;> simp only [Placed.view, hn, View.plain]
  | string us =>
    refine .other ?_
    cases hus : textOf? us <;> simp only [Placed.view, hus, View.plain]
  | array items =>
    cases room with
    | zero => exact .other rfl
    | succ room => exact .array room items
  | object members =>
    cases room with
    | zero => exact .other rfl
    | succ room => exact .object room members

theorem value?_of_isNull {p : Placed} (h : isNull p = true) : value? p = some .null := by
  cases p.shape with
  | null => rfl
  | array | object => cases h
  | other hplain =>
    rw [show p.view = .null from view_of_isNull h] at hplain
    cases hplain

theorem readable_of_isNull {p : Placed} (h : isNull p = true) : Readable p :=
  congrArg Option.isSome (value?_of_isNull h)

theorem isSome_memberValues? {room : Nat} {members : List (List StringUnit × Tree)}
    (h : (namedMembers room members).2 = true) :
    (memberValues? room members).isSome = true
      ↔ ∀ m ∈ (namedMembers room members).1, Readable m.2 := by
  induction members with
  | nil => exact ⟨fun _ => nofun, fun _ => rfl⟩
  | cons m members ih =>
    obtain ⟨us, t⟩ := m
    rw [namedMembers] at h ⊢
    rw [memberValues?]
    cases hname : textOf? us with
    | none =>
      rw [hname] at h
      cases h
    | some name =>
      rw [hname] at h
      have hvalue : Readable (⟨room, t⟩ : Placed) ↔ (Tree.value? room t).isSome = true := .rfl
      rw [List.forall_mem_cons, ← ih h, hvalue]
      cases Tree.value? room t <;> cases memberValues? room members <;> simp

omit [Source α] in
theorem isSome_mapM {item : α → Option β} {as : List α} :
    (as.mapM item).isSome = true ↔ ∀ a ∈ as, (item a).isSome = true := by
  induction as with
  | nil => exact ⟨fun _ => nofun, fun _ => rfl⟩
  | cons a as ih =>
    rw [List.mapM_cons, List.forall_mem_cons, ← ih]
    cases item a <;> cases as.mapM item <;> simp

theorem not_readable_of_unsound {p : Placed} {ms : List (String × Placed)}
    (hview : view p = .object ms false) : ¬ Readable p := by
  intro h
  obtain ⟨v, hv⟩ := Option.isSome_iff_exists.mp h
  exact not_denotes_of_unsound hview v hv

theorem readable_object_iff {p : Placed} {ms : List (String × Placed)}
    (hview : view p = .object ms true) : Readable p ↔ ∀ m ∈ ms, Readable m.2 := by
  cases p.shape with
  | null | array => cases hview
  | object room members =>
    simp only [view, Placed.view, View.object.injEq] at hview
    obtain ⟨rfl, hsound⟩ := hview
    rw [← isSome_memberValues? hsound]
    exact Option.isSome_map ▸ Iff.rfl
  | other hplain =>
    rw [show p.view = .object ms true from hview] at hplain
    cases hplain

theorem readable_array_iff {p : Placed} {items : List Placed} (hview : view p = .array items) :
    Readable p ↔ ∀ b ∈ items, Readable b := by
  cases p.shape with
  | null | object => cases hview
  | array room ts =>
    simp only [view, Placed.view, View.array.injEq] at hview
    subst hview
    refine Iff.trans ?_ isSome_mapM
    rw [mapM_value?_eq]
    exact Option.isSome_map ▸ Iff.rfl
  | other hplain =>
    rw [show p.view = .array items from hview] at hplain
    cases hplain

theorem MembersEdited.readable_iff {inText : Nat → Placed → Placed → Prop}
    {ms ms' : List (String × Placed)} (h : MembersEdited fields Readable inText ms ms')
    (hinside : ∀ i b b', inText i b b' → (Readable b ↔ Readable b')) :
    (∀ m ∈ ms, Readable m.2) ↔ ∀ m ∈ ms', Readable m.2 := by
  induction h with
  | nil => rfl
  | keep m _ ih => rw [List.forall_mem_cons, List.forall_mem_cons, ih]
  | change _ hchange _ ih =>
    rw [List.forall_mem_cons, List.forall_mem_cons, ih, hinside _ _ _ hchange]
  | remove _ hnull _ ih =>
    rw [List.forall_mem_cons, ih]
    exact and_iff_right (readable_of_isNull hnull)
  | add _ hok _ ih =>
    rw [List.forall_mem_cons, ← ih]
    exact (and_iff_right hok).symm

theorem Edited.readable_iff {inText : Nat → Placed → Placed → Prop} {p p' : Placed}
    (h : Edited fields Readable inText p p')
    (hinside : ∀ i b b', inText i b b' → (Readable b ↔ Readable b')) :
    Readable p ↔ Readable p' := by
  cases h with
  | same => rfl
  | @object _ _ _ sound hview hview' _ h =>
    cases sound with
    | false =>
      exact iff_of_false (not_readable_of_unsound hview) (not_readable_of_unsound hview')
    | true => rw [readable_object_iff hview, readable_object_iff hview', h.readable_iff hinside]
  | @array _ items items' hview hview' hlength _ h =>
    rw [readable_array_iff hview, readable_array_iff hview', List.forall_mem_iff_getElem,
      List.forall_mem_iff_getElem]
    have hitem : ∀ i (hi : i < items.length) (hi' : i < items'.length),
        Readable items[i] ↔ Readable items'[i] := by
      intro i hi hi'
      rcases h i _ (List.getElem?_eq_getElem hi) _ (List.getElem?_eq_getElem hi') with heq | hchange
      · rw [heq]
      · exact hinside i _ _ hchange
    exact ⟨fun hall i hi => (hitem i (hlength ▸ hi) hi).mp (hall i (hlength ▸ hi)),
      fun hall i hi => (hitem i hi (hlength ▸ hi)).mpr (hall i (hlength ▸ hi))⟩

theorem rel_value? {R : Value → Value → Prop} {p p' : Placed} (h : Readable p ↔ Readable p')
    (hR : ∀ v v', p.Denotes v → p'.Denotes v' → R v v') :
    Option.Rel R (value? p) (value? p') := by
  unfold Readable at h
  cases hv : value? p with
  | none =>
    have hnone : value? p' = none := by simpa [hv] using h
    rw [hnone]
    exact .none
  | some v =>
    have hsome : (value? p').isSome = true := by simpa [hv] using h
    obtain ⟨v', hv'⟩ := Option.isSome_iff_exists.mp hsome
    rw [hv']
    exact .some (hR v v' hv hv')

end BlockMail.Json
