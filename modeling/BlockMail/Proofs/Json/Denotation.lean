import BlockMail.Proofs.Json.Record
import Mathlib.Data.List.Forall2
import Mathlib.Data.List.Pairwise

/-! # Texts and their values

What stands in a text can be read in two ways: straight from the text, where a field that comes
twice is a fault and members for no field are skipped unread, or from the value of the text, where
of members with one name the last is left.  A placed tree and the value it denotes show the same
outermost layer but for that, `view_agrees`.  From it alone follows that a record read from the
text is read from the value too, with fields that denote each other: `Record.read?_denotes`.
-/

namespace BlockMail.Json

variable {α β : Type} {fields : List Field}

/-! ## Layers -/

/-- The value of the tree, where the tree stands. -/
def Placed.Denotes (p : Placed) (v : Value) : Prop := value? p = some v

/-- A member of a text beside a member of a value. -/
def MemberDenotes (m : String × Placed) (e : String × Value) : Prop :=
  m.1 = e.1 ∧ m.2.Denotes e.2

/-- The outermost layer of a text beside that of its value.  Only the members of an object are
    not the same in number and order. -/
inductive LayersAgree : View Placed → View Value → Prop
  | null : LayersAgree .null .null
  | bool (b : Bool) : LayersAgree (.bool b) (.bool b)
  | integer (n : Int) : LayersAgree (.integer n) (.integer n)
  | decimal : LayersAgree .decimal .decimal
  | string (s : String) : LayersAgree (.string s) (.string s)
  | array {items : List Placed} {values : List Value}
      (h : List.Forall₂ Placed.Denotes items values) : LayersAgree (.array items) (.array values)
  | object {members : List (String × Placed)} {pairs : List (String × Value)}
      (h : List.Forall₂ MemberDenotes members pairs) :
      LayersAgree (.object members true) (.object (Dict.ofList pairs).entries true)

theorem forall₂_of_mapM {item : α → Option β} {as : List α} {bs : List β}
    (h : as.mapM item = some bs) : List.Forall₂ (fun a b => item a = some b) as bs := by
  induction as generalizing bs with
  | nil =>
    cases h
    exact .nil
  | cons a as ih =>
    rw [List.mapM_cons] at h
    obtain ⟨b, hb, h⟩ := Option.bind_eq_some_iff.mp h
    obtain ⟨bs, hbs, h⟩ := Option.bind_eq_some_iff.mp h
    cases h
    exact .cons hb (ih hbs)

theorem mapM_value?_eq (room : Nat) (ts : List Tree) :
    (ts.map (Placed.mk room)).mapM value? = itemValues? room ts := by
  induction ts with
  | nil => rfl
  | cons t ts ih =>
    rw [List.map_cons, List.mapM_cons, ih, itemValues?]
    rfl

theorem forall₂_of_memberValues? {room : Nat} {members : List (List StringUnit × Tree)}
    {pairs : List (String × Value)} (h : memberValues? room members = some pairs) :
    (namedMembers room members).2 = true
      ∧ List.Forall₂ MemberDenotes (namedMembers room members).1 pairs := by
  induction members generalizing pairs with
  | nil =>
    cases h
    exact ⟨rfl, .nil⟩
  | cons m members ih =>
    obtain ⟨us, t⟩ := m
    rw [memberValues?] at h
    obtain ⟨name, hname, h⟩ := Option.bind_eq_some_iff.mp h
    obtain ⟨v, hv, h⟩ := Option.bind_eq_some_iff.mp h
    obtain ⟨rest, hrest, h⟩ := Option.bind_eq_some_iff.mp h
    cases h
    obtain ⟨hsound, hagree⟩ := ih hrest
    rw [namedMembers, hname]
    exact ⟨hsound, .cons ⟨rfl, hv⟩ hagree⟩

/-- A tree and its value show layers that agree. -/
theorem view_agrees {p : Placed} {v : Value} (h : p.Denotes v) :
    LayersAgree (view p) (view v) := by
  obtain ⟨room, t⟩ := p
  show LayersAgree (Placed.view _) (Value.view _)
  cases t with
  | null => cases h; exact .null
  | bool b => cases h; exact .bool b
  | number n =>
    obtain ⟨number, hnumber, rfl⟩ := Option.map_eq_some_iff.mp h
    simp only [Placed.view, hnumber]
    cases number with
    | integer n => exact .integer n
    | decimal => exact .decimal
  | string us =>
    obtain ⟨s, hs, rfl⟩ := Option.map_eq_some_iff.mp h
    simp only [Placed.view, hs]
    exact .string s
  | array items =>
    cases room with
    | zero => cases h
    | succ room =>
      obtain ⟨values, hvalues, rfl⟩ := Option.map_eq_some_iff.mp h
      exact .array (forall₂_of_mapM (mapM_value?_eq room items ▸ hvalues))
  | object members =>
    cases room with
    | zero => cases h
    | succ room =>
      obtain ⟨pairs, hpairs, rfl⟩ := Option.map_eq_some_iff.mp h
      obtain ⟨hsound, hagree⟩ := forall₂_of_memberValues? hpairs
      simp only [Placed.view, hsound]
      exact .object hagree

/-! ## Plain types -/

theorem isNull_denotes {p : Placed} {v : Value} (h : p.Denotes v) : isNull p = isNull v := by
  have hlayers := view_agrees h
  unfold isNull
  generalize view p = x, view v = y at hlayers ⊢
  cases hlayers <;> rfl

theorem readString_denotes {p : Placed} {v : Value} (h : p.Denotes v) :
    readString p = readString v := by
  have hlayers := view_agrees h
  unfold readString
  generalize view p = x, view v = y at hlayers ⊢
  cases hlayers <;> rfl

theorem readInt64_denotes {p : Placed} {v : Value} (h : p.Denotes v) :
    readInt64 p = readInt64 v := by
  have hlayers := view_agrees h
  unfold readInt64
  generalize view p = x, view v = y at hlayers ⊢
  cases hlayers <;> rfl

/-! ## Fields that come once -/

/-- No field has both names. -/
def Apart (fields : List Field) (m n : String) : Prop :=
  ∀ i ∈ fieldOf? fields m, i ∉ fieldOf? fields n

instance : Std.Symm fun m n : String × α => Apart fields m.1 n.1 :=
  ⟨fun _ _ h i hn hm => h i hm hn⟩

theorem arrivalsFrom_sound_iff {members : List (String × α)} {seen : List Nat} :
    (arrivalsFrom fields seen members).sound = true ↔
      members.Pairwise (fun m n => Apart fields m.1 n.1)
        ∧ ∀ m ∈ members, ∀ i ∈ fieldOf? fields m.1, i ∉ seen := by
  induction members generalizing seen with
  | nil => simp [arrivalsFrom]
  | cons m members ih =>
    obtain ⟨name, a⟩ := m
    rw [arrivalsFrom, List.pairwise_cons, List.forall_mem_cons]
    cases hname : fieldOf? fields name with
    | none => simp [ih, Apart, hname]
    | some i =>
      by_cases hseen : i ∈ seen
      · simp [hseen]
      · simp only [if_neg hseen, ih]
        -- the list `seen` grows by `i`: to avoid the longer list is to avoid `seen` and to
        -- stand apart from the first member
        constructor
        · rintro ⟨hapart, hfresh⟩
          refine ⟨⟨fun m hm j hj hmj => ?_, hapart⟩, fun j hj => Option.some.inj hj ▸ hseen,
            fun m hm j hmj hold => hfresh m hm j hmj (List.mem_cons_of_mem _ hold)⟩
          obtain rfl : i = j := Option.some.inj (hname.symm.trans hj)
          exact hfresh m hm i hmj List.mem_cons_self
        · rintro ⟨⟨hfirst, hapart⟩, -, hfresh⟩
          refine ⟨hapart, fun m hm j hmj hold => ?_⟩
          rcases List.mem_cons.mp hold with rfl | hold
          · exact hfirst m hm j hname hmj
          · exact hfresh m hm j hmj hold

section Source

variable [Source α] {a : α} {ms : List (String × α)}

theorem Record.exists_read?_of_apart (hview : view a = .object ms true)
    (hapart : ms.Pairwise fun m n => Apart fields m.1 n.1) :
    ∃ r, Record.read? fields a = some r := by
  have hsound := arrivalsFrom_sound_iff.mpr ⟨hapart, fun _ _ _ _ => List.not_mem_nil⟩
  rw [Record.read?_of_object hview, hsound, Bool.and_true, if_pos rfl]
  exact ⟨_, rfl⟩

theorem Record.read?_of_unsound (hview : view a = .object ms false) :
    Record.read? fields a = none := by
  rw [Record.read?_of_object hview, Bool.and_false]
  rfl

theorem Record.apart_of_read? {sound : Bool} {r : Record α} (hview : view a = .object ms sound)
    (hr : Record.read? fields a = some r) : ms.Pairwise fun m n => Apart fields m.1 n.1 := by
  rw [Record.read?_of_object hview] at hr
  split at hr
  · next hsound => exact (arrivalsFrom_sound_iff.mp (Bool.and_eq_true_iff.mp hsound).1).1
  · cases hr

theorem Record.read?_of_not_apart {sound : Bool} (hview : view a = .object ms sound)
    (h : ¬ ms.Pairwise fun m n => Apart fields m.1 n.1) : Record.read? fields a = none :=
  Option.eq_none_iff_forall_ne_some.mpr fun _ hr => h (Record.apart_of_read? hview hr)

end Source

theorem fieldOf?_of_find? {members : List (String × α)} {m : String × α} {i : Nat}
    (h : members.find? (fun m => fieldOf? fields m.1 == some i) = some m) :
    fieldOf? fields m.1 = some i := by
  have htest := List.find?_some h
  exact eq_of_beq htest

theorem find?_ofList {pairs : List (String × α)}
    (h : pairs.Pairwise fun m n => Apart fields m.1 n.1) (i : Nat) :
    (Dict.ofList pairs).entries.find? (fun m => fieldOf? fields m.1 == some i)
      = pairs.find? (fun m => fieldOf? fields m.1 == some i) := by
  cases hfound : pairs.find? (fun m => fieldOf? fields m.1 == some i) with
  | none =>
    rw [List.find?_eq_none] at hfound ⊢
    exact fun m hm => hfound m (Dict.mem_ofList hm)
  | some e =>
    have he := fieldOf?_of_find? hfound
    obtain ⟨y, hy, hkey⟩ := Dict.exists_entry_of_mem (List.mem_of_find?_eq_some hfound)
    have hsome : ((Dict.ofList pairs).entries.find?
        (fun m => fieldOf? fields m.1 == some i)).isSome :=
      List.find?_isSome.mpr ⟨y, hy, by rw [hkey, he, beq_self_eq_true]⟩
    obtain ⟨z, hz⟩ := Option.isSome_iff_exists.mp hsome
    rw [hz]
    by_contra hne
    exact h.forall (Dict.mem_ofList (List.mem_of_find?_eq_some hz))
      (List.mem_of_find?_eq_some hfound) (fun heq => hne (congrArg some heq)) i
      (fieldOf?_of_find? hz) he

theorem pairwise_apart_ofList {pairs : List (String × α)}
    (h : pairs.Pairwise fun m n => Apart fields m.1 n.1) :
    (Dict.ofList pairs).entries.Pairwise fun m n => Apart fields m.1 n.1 := by
  refine (Dict.ofList pairs).sorted.imp_of_mem fun {m n} hm hn hlt => ?_
  refine h.forall (Dict.mem_ofList hm) (Dict.mem_ofList hn) fun heq => ?_
  exact String.lt_irrefl n.1 (heq ▸ hlt)

/-! ## Records -/

/-- What two records have for every field: nothing, or a tree and its value. -/
def Record.Agree (r : Record Placed) (s : Record Value) : Prop :=
  ∀ i, Option.Rel Placed.Denotes (r.slot? i) (s.slot? i)

theorem rel_getElem? {items : List Placed} {values : List Value}
    (h : List.Forall₂ Placed.Denotes items values) (i : Nat) :
    Option.Rel Placed.Denotes items[i]? values[i]? := by
  induction h generalizing i with
  | nil => exact .none
  | cons hv _ ih =>
    cases i with
    | zero => exact .some hv
    | succ i => exact ih i

theorem rel_find? {members : List (String × Placed)} {pairs : List (String × Value)}
    (h : List.Forall₂ MemberDenotes members pairs) (test : String → Bool) :
    Option.Rel Placed.Denotes ((members.find? fun m => test m.1).map (·.2))
      ((pairs.find? fun m => test m.1).map (·.2)) := by
  induction h with
  | nil => exact .none
  | @cons m e _ _ hm _ ih =>
    rw [List.find?_cons, List.find?_cons, hm.1]
    cases test e.1 with
    | true => exact .some hm.2
    | false => exact ih

theorem names_of_forall₂ {members : List (String × Placed)} {pairs : List (String × Value)}
    (h : List.Forall₂ MemberDenotes members pairs) : members.map (·.1) = pairs.map (·.1) := by
  induction h with
  | nil => rfl
  | cons hm _ ih => rw [List.map_cons, List.map_cons, hm.1, ih]

theorem apart_of_forall₂ {members : List (String × Placed)} {pairs : List (String × Value)}
    (h : List.Forall₂ MemberDenotes members pairs)
    (hapart : members.Pairwise fun m n => Apart fields m.1 n.1) :
    pairs.Pairwise fun m n => Apart fields m.1 n.1 := by
  refine (List.pairwise_map (R := Apart fields)).mp ?_
  rw [← names_of_forall₂ h, List.pairwise_map]
  exact hapart

/-- A record of a text is a record of its value, with the same fields. -/
theorem Record.read?_denotes {p : Placed} {v : Value} {r : Record Placed} (h : p.Denotes v)
    (hr : Record.read? fields p = some r) :
    ∃ s, Record.read? fields v = some s ∧ r.Agree s := by
  have hlayers := view_agrees h
  generalize hp : view p = x, hv : view v = y at hlayers
  cases hlayers with
  | array hitems =>
    have hlength := hitems.length_eq
    have hread := hr
    rw [read?_of_array hp] at hread
    split at hread
    · next hfit =>
      have hs : Record.read? fields v = _ := read?_of_array hv
      rw [if_pos (hlength ▸ hfit)] at hs
      refine ⟨_, hs, fun i => ?_⟩
      rw [slot?_of_array hp hr, slot?_of_array hv hs]
      split
      · exact rel_getElem? hitems i
      · exact .none
    · cases hread
  | object hmembers =>
    have hpairs := apart_of_forall₂ hmembers (apart_of_read? hp hr)
    obtain ⟨s, hs⟩ := exists_read?_of_apart hv (pairwise_apart_ofList hpairs)
    refine ⟨s, hs, fun i => ?_⟩
    rw [slot?_of_object hp hr, slot?_of_object hv hs, find?_ofList hpairs]
    exact rel_find? hmembers fun name => fieldOf? fields name == some i
  | _ =>
    unfold Record.read? arrivals? at hr
    rw [hp] at hr
    cases hr

namespace Record.Agree

variable {r : Record Placed} {s : Record Value}

theorem optional (h : r.Agree s) {item : Placed → Option β} {item' : Value → Option β}
    (hitem : ∀ {p v}, p.Denotes v → item p = item' v) (i : Nat) :
    r.optional i item = s.optional i item' := by
  have hslot := h i
  unfold Record.optional readNullable
  generalize r.slot? i = a, s.slot? i = b at hslot ⊢
  cases hslot with
  | none => rfl
  | some hv =>
    simp only
    rw [isNull_denotes hv, hitem hv]

theorem orElse (h : r.Agree s) {item : Placed → Option β} {item' : Value → Option β}
    (hitem : ∀ {p v}, p.Denotes v → item p = item' v) (i : Nat) (default : β) :
    r.orElse i default item = s.orElse i default item' :=
  congrArg (Option.map _) (h.optional hitem i)

end Record.Agree

end BlockMail.Json
