import BlockMail.Proofs.Block.Notice
import BlockMail.Proofs.Json.Spelling

/-! # Schemas

A structure is described by its slots, one for each field: the names of the field, the values that
may be written for it, and what it is read as.  A reader that goes by its slots, `GoesBy`, accepts
just the values that fit them, reads each field from what is written for it and from nothing else,
and cannot tell an array from an object that names its items.
-/

namespace BlockMail.Json

variable {β γ δ : Type}

/-! ## Slots -/

/-- A field of a structure.  It accepts nothing, `null` and the values that it takes. -/
structure Slot (γ : Type) where
  names : Field
  Takes : Value → Prop
  read : Option Value → Option γ
  accepts_iff (o : Option Value) : (∃ x, read o = some x) ↔ ∀ v ∈ o, v = .null ∨ Takes v

/-- What a field is read as that may be missing or `null`. -/
def readMissable (item : Value → Option β) : Option Value → Option (Option β)
  | none => some none
  | some v => readNullable item v

theorem exists_readMissable_iff {item : Value → Option β} (o : Option Value) :
    (∃ x, readMissable item o = some x) ↔ ∀ v ∈ o, v = .null ∨ ∃ b, item v = some b := by
  cases o with
  | none => simp [readMissable]
  | some v =>
    unfold readMissable readNullable
    by_cases hnull : v = .null
    · simp [hnull, isNull_iff.mpr]
    · have hv : isNull v ≠ true := mt isNull_iff.mp hnull
      simp [hv, hnull]

theorem Record.optional_eq (r : Record Value) (i : Nat) (item : Value → Option β) :
    r.optional i item = readMissable item (r.slot? i) := by
  unfold Record.optional readMissable
  cases r.slot? i <;> rfl

theorem Record.orElse_eq (r : Record Value) (i : Nat) (default : β) (item : Value → Option β) :
    r.orElse i default item = (readMissable item (r.slot? i)).map (·.getD default) := by
  rw [Record.orElse, Record.optional_eq]

namespace Slot

/-- The slot of a field whose values are read by `item`. -/
def of (names : Field) (item : Value → Option β) (wrap : Option β → γ) (Takes : Value → Prop)
    (htakes : ∀ v, (∃ b, item v = some b) ↔ Takes v) : Slot γ where
  names
  Takes
  read o := (readMissable item o).map wrap
  accepts_iff o := by
    have hread : (∃ x, (readMissable item o).map wrap = some x)
        ↔ ∃ x, readMissable item o = some x := by
      cases readMissable item o <;> simp
    simp only [hread, exists_readMissable_iff, htakes]

/-- What is written for the field at a position, in an object by name and in an array by
    position. -/
def member? (s : Slot γ) (position : Nat) : Value → Option Value
  | .object members => (members.find? fun m => s.names.contains m.1).map (·.2)
  | .array items => items[position]?
  | _ => none

end Slot

/-- The names of fields. -/
def fieldsOf (slots : List (Slot γ)) : List Field := slots.map (·.names)

/-- A value fits a structure: no field comes twice in an object, an array is not too long, and each
    field has `null` or a value that it takes. -/
def Fits (slots : List (Slot γ)) : Value → Prop
  | .object members =>
    (members.Pairwise fun m n => ∀ s ∈ slots, m.1 ∈ s.names → n.1 ∉ s.names)
      ∧ ∀ m ∈ members, ∀ s ∈ slots, m.1 ∈ s.names → m.2 = .null ∨ s.Takes m.2
  | .array items =>
    items.length ≤ slots.length
      ∧ ∀ (i : Nat) (s : Slot γ) (v : Value), slots[i]? = some s → items[i]? = some v →
        v = .null ∨ s.Takes v
  | _ => False

/-! ## Names of fields -/

/-- No name belongs to two fields, nor twice to one. -/
def Distinct (slots : List (Slot γ)) : Prop := (slots.flatMap (·.names)).Nodup

section Names

variable {slots : List (Slot γ)} {s : Slot γ} {i : Nat}

theorem fieldOf?_eq_some_iff (hdistinct : Distinct slots) (hs : slots[i]? = some s)
    {name : String} : fieldOf? (fieldsOf slots) name = some i ↔ name ∈ s.names := by
  obtain ⟨hi, rfl⟩ := List.getElem?_eq_some_iff.mp hs
  have hdisjoint := List.pairwise_iff_getElem.mp (List.nodup_flatMap.mp hdistinct).2
  simp only [fieldOf?, fieldsOf, List.findIdx?_map, List.findIdx?_eq_some_iff_getElem,
    Function.comp_apply, List.contains_iff_mem]
  constructor
  · rintro ⟨_, hname, -⟩
    exact hname
  · intro hname
    exact ⟨hi, hname, fun j hj hother => hdisjoint j i _ hi hj hother hname⟩

theorem exists_slot_of_fieldOf? {name : String} (h : fieldOf? (fieldsOf slots) name = some i) :
    ∃ s, slots[i]? = some s := by
  have hi := (List.findIdx?_eq_some_iff_findIdx_eq.mp h).1
  rw [fieldsOf, List.length_map] at hi
  exact ⟨_, List.getElem?_eq_getElem hi⟩

theorem apart_iff (hdistinct : Distinct slots) {m n : String} :
    Apart (fieldsOf slots) m n ↔ ∀ s ∈ slots, m ∈ s.names → n ∉ s.names := by
  constructor
  · intro h s hs hm hn
    obtain ⟨i, hi⟩ := List.getElem?_of_mem hs
    exact h i ((fieldOf?_eq_some_iff hdistinct hi).mpr hm)
      ((fieldOf?_eq_some_iff hdistinct hi).mpr hn)
  · intro h i hm hn
    obtain ⟨s, hs⟩ := exists_slot_of_fieldOf? hm
    exact h s (List.mem_of_getElem? hs) ((fieldOf?_eq_some_iff hdistinct hs).mp hm)
      ((fieldOf?_eq_some_iff hdistinct hs).mp hn)

theorem member?_object (hdistinct : Distinct slots) (hs : slots[i]? = some s)
    (members : List (String × Value)) : s.member? i (.object members)
      = (members.find? fun m => fieldOf? (fieldsOf slots) m.1 == some i).map (·.2) := by
  have hmember : (fun m : String × Value => fieldOf? (fieldsOf slots) m.1 == some i)
      = fun m => s.names.contains m.1 := by
    funext m
    rw [Bool.eq_iff_iff, beq_iff_eq, List.contains_iff_mem, fieldOf?_eq_some_iff hdistinct hs]
  rw [hmember, Slot.member?]

theorem slot?_eq_member? (hdistinct : Distinct slots) (hs : slots[i]? = some s) {v : Value}
    {r : Record Value} (h : Record.read? (fieldsOf slots) v = some r) :
    r.slot? i = s.member? i v := by
  cases v with
  | object members => rw [Record.slot?_of_object rfl h, member?_object hdistinct hs]
  | array items =>
    have hi : i < (fieldsOf slots).length := by
      rw [fieldsOf, List.length_map]
      exact (List.getElem?_eq_some_iff.mp hs).1
    rw [Record.slot?_of_array rfl h, if_pos hi, Slot.member?]
  | number n => cases n <;> cases h
  | _ => cases h

theorem fits_iff (hdistinct : Distinct slots) {v : Value} :
    Fits slots v ↔ HasForm (fieldsOf slots) v ∧ ∀ (i : Nat) (s : Slot γ), slots[i]? = some s →
      ∀ w ∈ s.member? i v, w = .null ∨ s.Takes w := by
  cases v with
  | object members =>
    simp only [Fits, HasForm, apart_iff hdistinct]
    refine and_congr_right fun hapart => ⟨fun h i s hs w hw => ?_, fun h m hm s hs hname => ?_⟩
    · obtain ⟨m, hm, rfl⟩ := Option.map_eq_some_iff.mp hw
      have hname := List.find?_some hm
      exact h m (List.mem_of_find?_eq_some hm) s (List.mem_of_getElem? hs)
        (List.contains_iff_mem.mp hname)
    · obtain ⟨i, hi⟩ := List.getElem?_of_mem hs
      have hfield := (fieldOf?_eq_some_iff hdistinct hi).mpr hname
      refine h i s hi m.2 ?_
      rw [Option.mem_def, member?_object hdistinct hi, find?_eq_some_iff_of_apart]
      · exact List.mem_map.mpr ⟨m, hm, by rw [meaning, hfield]⟩
      · simpa only [apart_iff hdistinct] using hapart
  | array items =>
    simp only [Fits, HasForm, fieldsOf, List.length_map, Slot.member?, Option.mem_def]
    exact and_congr_right fun _ => ⟨fun h i s hs w hw => h i s w hs hw,
      fun h i s v hs hv => h i s hs v hv⟩
  | _ => simp [Fits, HasForm]

/-- Names of all fields, in order. -/
abbrev Naming (names : List String) (slots : List (Slot γ)) : Prop :=
  List.Forall₂ (fun name s => name ∈ s.names) names slots

theorem Naming.fieldOf?_eq {names : List String} (h : Naming names slots)
    (hdistinct : Distinct slots) {name : String} (hi : names[i]? = some name) :
    fieldOf? (fieldsOf slots) name = some i := by
  obtain ⟨hlt, rfl⟩ := List.getElem?_eq_some_iff.mp hi
  have hlt' : i < slots.length := h.length_eq ▸ hlt
  exact (fieldOf?_eq_some_iff hdistinct (List.getElem?_eq_getElem hlt')).mpr (h.get hlt hlt')

theorem Naming.pairwise_apart {names : List String} (h : Naming names slots)
    (hdistinct : Distinct slots) : names.Pairwise (Apart (fieldsOf slots)) := by
  refine List.pairwise_iff_getElem.mpr fun i j hi hj hij k hk hk' => ?_
  have hfirst := h.fieldOf?_eq hdistinct (List.getElem?_eq_getElem hi)
  have hsecond := h.fieldOf?_eq hdistinct (List.getElem?_eq_getElem hj)
  have hik : i = k := Option.some.inj (hfirst.symm.trans hk)
  have hjk : j = k := Option.some.inj (hsecond.symm.trans hk')
  omega

theorem Naming.zip_apart {names : List String} (h : Naming names slots) (hdistinct : Distinct slots)
    (items : List Value) :
    (names.zip items).Pairwise fun m n => Apart (fieldsOf slots) m.1 n.1 := by
  refine (List.pairwise_map (R := Apart (fieldsOf slots))).mp ?_
  exact (h.pairwise_apart hdistinct).sublist (map_fst_zip_sublist names items)

theorem Naming.find?_zip {names : List String} (h : Naming names slots) (hdistinct : Distinct slots)
    (hi : i < slots.length) (items : List Value) :
    ((names.zip items).find? fun m => fieldOf? (fieldsOf slots) m.1 == some i).map (·.2)
      = items[i]? := by
  ext v
  rw [find?_eq_some_iff_of_apart (h.zip_apart hdistinct items), List.mem_map]
  constructor
  · rintro ⟨m, hm, hmeaning⟩
    obtain ⟨j, hj⟩ := List.getElem?_of_mem hm
    obtain ⟨hname, hitem⟩ := List.getElem?_zip_eq_some.mp hj
    obtain ⟨hfield, rfl⟩ := Prod.mk.inj hmeaning
    have hij : j = i := Option.some.inj ((h.fieldOf?_eq hdistinct hname).symm.trans hfield)
    rw [← hij, hitem]
  · intro hitem
    have hname := List.getElem?_eq_getElem (h.length_eq.symm ▸ hi : i < names.length)
    have hmem := List.mem_of_getElem? (List.getElem?_zip_eq_some (z := (_, v)).mpr ⟨hname, hitem⟩)
    exact ⟨_, hmem, by rw [meaning, h.fieldOf?_eq hdistinct hname]⟩

end Names

/-! ## Readers that go by slots -/

/-- What each field of a record is read as. -/
def slotValues (slots : List (Slot γ)) (r : Record Value) : List (Option γ) :=
  slots.zipIdx.map fun p => p.1.read (r.slot? p.2)

/-- What the fields of a record are read as, if all of them are. -/
def readSlots (slots : List (Slot γ)) (r : Record Value) : Option (List γ) :=
  (slotValues slots r).mapM id

/-- What the slots from a position on are read as. -/
def readSlotsFrom (i : Nat) (slots : List (Slot γ)) (r : Record Value) : Option (List γ) :=
  ((slots.zipIdx i).map fun p => p.1.read (r.slot? p.2)).mapM id

/-- What is made once the fields before a position have been read as `before`, the last of them
    first. -/
def ReadOn (r : Record Value) (values : β → List γ) (i : Nat) (before : List γ)
    (slots : List (Slot γ)) (o : Option β) : Prop :=
  o.map values = (readSlotsFrom i slots r).map (before.reverse ++ ·)

/-- A reader reads the fields of a record as its slots do, and makes its result of nothing else. -/
structure GoesBy (slots : List (Slot γ)) (read : Value → Option β) (values : β → List γ) :
    Prop where
  distinct : Distinct slots
  read_eq (v : Value) :
    (read v).map values = (Record.read? (fieldsOf slots) v).bind (readSlots slots)
  eq_of_values {v v' : Value} {b b' : β} (hb : read v = some b) (hb' : read v' = some b')
    (h : values b = values b') : b = b'

section Slots

variable {slots : List (Slot γ)} {r r' : Record Value}

theorem isSome_readSlots :
    (readSlots slots r).isSome = true ↔ ∀ (i : Nat) (s : Slot γ), slots[i]? = some s →
      ∀ w ∈ r.slot? i, w = .null ∨ s.Takes w := by
  rw [readSlots, isSome_mapM, slotValues, List.forall_mem_map]
  simp only [id_eq, Option.isSome_iff_exists, Slot.accepts_iff]
  constructor
  · intro h i s hs
    exact h (s, i) (List.mk_mem_zipIdx_iff_getElem?.mpr hs)
  · intro h p hp
    exact h p.2 p.1 (List.mk_mem_zipIdx_iff_getElem?.mp hp)

theorem slotValues_eq {xs : List γ} (h : readSlots slots r = some xs) :
    slotValues slots r = xs.map some := by
  rw [← List.forall₂_eq_eq_eq, List.forall₂_map_right_iff]
  exact forall₂_of_mapM h

theorem length_readSlots {xs : List γ} (h : readSlots slots r = some xs) :
    xs.length = slots.length := by
  simpa [slotValues] using (congrArg List.length (slotValues_eq h)).symm

theorem readSlots_getElem? {xs : List γ} (h : readSlots slots r = some xs) {i : Nat} {s : Slot γ}
    (hs : slots[i]? = some s) : xs[i]? = s.read (r.slot? i) := by
  have hi := congrArg (·[i]?) (slotValues_eq h)
  simp only [slotValues, List.getElem?_map, List.getElem?_zipIdx, hs, Option.map_some,
    Nat.zero_add] at hi
  obtain ⟨x, hx, heq⟩ := Option.map_eq_some_iff.mp hi.symm
  rw [hx, heq]

theorem readSlots_congr
    (h : ∀ (i : Nat) (s : Slot γ), slots[i]? = some s → r.slot? i = r'.slot? i) :
    readSlots slots r = readSlots slots r' := by
  unfold readSlots slotValues
  congr 1
  refine List.map_congr_left fun p hp => ?_
  rw [h p.2 p.1 (List.mk_mem_zipIdx_iff_getElem?.mp hp)]

section ReadOn

variable {values : β → List γ} {i : Nat} {before : List γ}

theorem ReadOn.done {b : β} (h : values b = before.reverse) :
    ReadOn r values i before [] (some b) := by
  simp [ReadOn, readSlotsFrom, h]

theorem ReadOn.field {s : Slot γ} {x : Option δ} {wrap : δ → γ} {next : δ → Option β}
    (hx : s.read (r.slot? i) = x.map wrap)
    (h : ∀ d, ReadOn r values (i + 1) (wrap d :: before) slots (next d)) :
    ReadOn r values i before (s :: slots) (x.bind next) := by
  have hcons : readSlotsFrom i (s :: slots) r
      = (x.map wrap).bind fun c => (readSlotsFrom (i + 1) slots r).map (c :: ·) := by
    rw [← hx, readSlotsFrom, List.zipIdx_cons, List.map_cons, List.mapM_cons]
    exact Option.bind_congr fun c _ => Option.map_eq_bind.symm
  cases x with
  | none => simp [ReadOn, hcons]
  | some d =>
    have hd := h d
    simp only [ReadOn] at hd
    simp [ReadOn, hcons, hd, Function.comp_def]

end ReadOn

end Slots

namespace GoesBy

variable {slots : List (Slot γ)} {read : Value → Option β} {values : β → List γ} {v v' : Value}
  {b : β}

/-- A reader that reads the fields of a record one by one goes by their slots. -/
theorem of_record {rest : Record Value → Option β} (hdistinct : (fieldsOf slots).flatten.Nodup)
    (hread : ∀ v, read v = (Record.read? (fieldsOf slots) v).bind rest)
    (hrest : ∀ r, ReadOn r values 0 [] slots (rest r))
    (hvalues : Function.Injective values) : GoesBy slots read values where
  distinct := by
    rwa [fieldsOf, ← List.flatMap_def] at hdistinct
  read_eq v := by
    rw [hread, Option.map_bind]
    refine Option.bind_congr fun r _ => ?_
    have hr := hrest r
    simp only [ReadOn, List.reverse_nil, List.nil_append, Option.map_id_fun'] at hr
    exact hr
  eq_of_values _ _ h := hvalues h

theorem exists_record (h : GoesBy slots read values) (hb : read v = some b) :
    ∃ r, Record.read? (fieldsOf slots) v = some r ∧ readSlots slots r = some (values b) := by
  have hread := h.read_eq v
  rw [hb, Option.map_some] at hread
  exact Option.bind_eq_some_iff.mp hread.symm

theorem accepts_iff (h : GoesBy slots read values) (v : Value) :
    (∃ b, read v = some b) ↔ Fits slots v := by
  rw [fits_iff h.distinct, ← exists_record_iff]
  constructor
  · rintro ⟨b, hb⟩
    obtain ⟨r, hr, hvalues⟩ := h.exists_record hb
    refine ⟨⟨r, hr⟩, fun i s hs => ?_⟩
    rw [← slot?_eq_member? h.distinct hs hr]
    exact isSome_readSlots.mp (by rw [hvalues, Option.isSome_some]) i s hs
  · rintro ⟨⟨r, hr⟩, haccepts⟩
    have hsome : (readSlots slots r).isSome = true := by
      refine isSome_readSlots.mpr fun i s hs => ?_
      rw [slot?_eq_member? h.distinct hs hr]
      exact haccepts i s hs
    -- the slots are full, and the reader does nothing but fill them
    have hread := h.read_eq v
    rw [hr, Option.bind_some] at hread
    rw [← Option.isSome_iff_exists, ← Option.isSome_map, hread, hsome]

theorem length_values (h : GoesBy slots read values) (hb : read v = some b) :
    (values b).length = slots.length := by
  obtain ⟨r, -, hvalues⟩ := h.exists_record hb
  exact length_readSlots hvalues

theorem values_getElem? (h : GoesBy slots read values) (hb : read v = some b) {i : Nat} {s : Slot γ}
    (hs : slots[i]? = some s) : (values b)[i]? = s.read (s.member? i v) := by
  obtain ⟨r, hr, hvalues⟩ := h.exists_record hb
  rw [readSlots_getElem? hvalues hs, slot?_eq_member? h.distinct hs hr]

theorem read_congr (h : GoesBy slots read values)
    (hform : HasForm (fieldsOf slots) v) (hform' : HasForm (fieldsOf slots) v')
    (hmember : ∀ (i : Nat) (s : Slot γ), slots[i]? = some s → s.member? i v = s.member? i v') :
    read v = read v' := by
  obtain ⟨r, hr⟩ := exists_record_iff.mpr hform
  obtain ⟨r', hr'⟩ := exists_record_iff.mpr hform'
  have hslots : readSlots slots r = readSlots slots r' := by
    refine readSlots_congr fun i s hs => ?_
    rw [slot?_eq_member? h.distinct hs hr, slot?_eq_member? h.distinct hs hr', hmember i s hs]
  have hvalues : (read v).map values = (read v').map values := by
    rw [h.read_eq, h.read_eq, hr, hr', Option.bind_some, Option.bind_some, hslots]
  cases hb : read v with
  | none =>
    rw [hb, Option.map_none] at hvalues
    exact (Option.map_eq_none_iff.mp hvalues.symm).symm
  | some b =>
    rw [hb, Option.map_some] at hvalues
    obtain ⟨b', hb', heq⟩ := Option.map_eq_some_iff.mp hvalues.symm
    rw [hb', h.eq_of_values hb hb' heq.symm]

/-- An array is read as an object that names its items. -/
theorem read_object (h : GoesBy slots read values) {items : List Value} {names : List String}
    {members : List (String × Value)} (hlength : items.length ≤ slots.length)
    (hnames : Naming names slots) (hmembers : members.Perm (names.zip items)) :
    read (.object members) = read (.array items) := by
  have hperm := (hmembers.map (meaning (fieldsOf slots))).symm
  have hapart := hnames.zip_apart h.distinct items
  refine h.read_congr (pairwise_apart_of_perm hperm hapart) ?_ fun i s hs => ?_
  · rw [HasForm, fieldsOf, List.length_map]
    exact hlength
  · rw [member?_object h.distinct hs, ← find?_eq_of_perm hperm hapart,
      hnames.find?_zip h.distinct (List.getElem?_eq_some_iff.mp hs).1, Slot.member?]

theorem map (h : GoesBy slots read values) {wrap : β → δ} {values' : δ → List γ}
    (hvalues : ∀ b, values' (wrap b) = values b) :
    GoesBy slots (fun v => (read v).map wrap) values' := by
  refine ⟨h.distinct, fun v => ?_, fun {_ _ _ _} hb hb' heq => ?_⟩
  · have hcomp : values' ∘ wrap = values := funext hvalues
    rw [Option.map_map, hcomp, h.read_eq]
  · obtain ⟨b, hread, rfl⟩ := Option.map_eq_some_iff.mp hb
    obtain ⟨b', hread', rfl⟩ := Option.map_eq_some_iff.mp hb'
    rw [hvalues, hvalues] at heq
    rw [h.eq_of_values hread hread' heq]

end GoesBy

/-- What it means for a reader to go by its slots, of the values that it reads. -/
structure ReadBySlots (slots : List (Slot γ)) (read : Value → Option β) (values : β → List γ) :
    Prop where
  accepts_iff (v : Value) : (∃ b, read v = some b) ↔ Fits slots v
  /-- Each field is read from its own member. -/
  fields {v : Value} {b : β} (h : read v = some b) : (values b).length = slots.length
    ∧ ∀ (i : Nat) (s : Slot γ), slots[i]? = some s → (values b)[i]? = s.read (s.member? i v)
  determined {v v' : Value} {b b' : β} (h : read v = some b) (h' : read v' = some b')
    (hvalues : values b = values b') : b = b'
  /-- The items of an array may be named. -/
  named {items : List Value} {names : List String} {members : List (String × Value)}
    (hlength : items.length ≤ slots.length) (hnames : Naming names slots)
    (hmembers : members.Perm (names.zip items)) : read (.object members) = read (.array items)

theorem GoesBy.readBySlots {slots : List (Slot γ)} {read : Value → Option β} {values : β → List γ}
    (h : GoesBy slots read values) : ReadBySlots slots read values where
  accepts_iff := h.accepts_iff
  fields hb := ⟨h.length_values hb, fun _ _ hs => h.values_getElem? hb hs⟩
  determined := h.eq_of_values
  named := h.read_object

end BlockMail.Json
