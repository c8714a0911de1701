import BlockMail.Json.Record
import Mathlib.Data.List.Basic

/-! # Records around one source

A container holds a source for one of its fields.  Whether the container is a record does not
depend on that source, and neither do the other fields.  No field comes twice in a record, and the
fields before a source do not depend on what comes behind it.
-/

namespace BlockMail.Json

variable {α β : Type} {fields : List Field} {i : Nat}

/-! ## Members for fields -/

theorem arrivalsFrom_of_mem {name : String} (h : fieldOf? fields name = some i)
    (before after : List (String × α)) (a : α) {seen : List Nat} (hseen : i ∈ seen) :
    (arrivalsFrom fields seen (before ++ (name, a) :: after)).sound = false := by
  induction before generalizing seen with
  | nil => simp [arrivalsFrom, h, hseen]
  | cons m before ih =>
    obtain ⟨other, b⟩ := m
    rw [List.cons_append, arrivalsFrom]
    split
    · exact ih hseen
    · next j hj =>
      split
      · rfl
      · exact ih (List.mem_cons_of_mem _ hseen)

/-- The only source for a field is passed on at the position of the field. -/
theorem arrivalsFrom_append {name : String} (h : fieldOf? fields name = some i)
    (before after : List (String × α)) (seen : List Nat) :
    (∀ a, (arrivalsFrom fields seen (before ++ (name, a) :: after)).sound = false)
      ∨ ∃ p q, (∀ x ∈ p, x.1 ≠ i)
        ∧ ∀ a, arrivalsFrom fields seen (before ++ (name, a) :: after)
          = ⟨p ++ (i, a) :: q, true⟩ := by
  -- on the members before the source, each of which is for another field or for none
  induction before generalizing seen with
  | nil =>
    by_cases hseen : i ∈ seen
    · exact .inl fun a => arrivalsFrom_of_mem h [] after a hseen
    · cases hrest : (arrivalsFrom fields (i :: seen) after).sound with
      | false => exact .inl fun a => by simp [arrivalsFrom, h, hseen, hrest]
      | true =>
        refine .inr ⟨[], (arrivalsFrom fields (i :: seen) after).fields, nofun, fun a => ?_⟩
        simp [arrivalsFrom, h, hseen, hrest]
  | cons m before ih =>
    obtain ⟨other, b⟩ := m
    simp only [List.cons_append, arrivalsFrom]
    cases hj : fieldOf? fields other with
    | none => exact ih seen
    | some j =>
      by_cases hseen : j ∈ seen
      · exact .inl fun a => by simp [hseen]
      · simp only [if_neg hseen]
        by_cases hij : j = i
        · subst hij
          exact .inl fun a => arrivalsFrom_of_mem h before after a (.head _)
        · rcases ih (j :: seen) with hfault | ⟨p, q, hp, hfound⟩
          · exact .inl hfault
          · refine .inr ⟨(j, b) :: p, q, ?_, fun a => by rw [hfound a]; rfl⟩
            intro x hx
            rcases List.mem_cons.mp hx with rfl | hx
            · exact hij
            · exact hp x hx

theorem arrivalsFrom_append_of_sound {before rest₀ : List (String × α)} {seen : List Nat}
    (h : (arrivalsFrom fields seen (before ++ rest₀)).sound = true) :
    ∃ seen', ∀ rest, arrivalsFrom fields seen (before ++ rest)
      = ⟨(arrivalsFrom fields seen before).fields ++ (arrivalsFrom fields seen' rest).fields,
        (arrivalsFrom fields seen' rest).sound⟩ := by
  induction before generalizing seen with
  | nil => exact ⟨seen, fun rest => rfl⟩
  | cons m before ih =>
    obtain ⟨name, a⟩ := m
    simp only [List.cons_append, arrivalsFrom] at h ⊢
    cases hname : fieldOf? fields name with
    | none =>
      rw [hname] at h
      exact ih h
    | some j =>
      by_cases hseen : j ∈ seen
      · simp [hname, hseen] at h
      · simp only [hname, if_neg hseen] at h ⊢
        obtain ⟨seen', hrest⟩ := ih h
        exact ⟨seen', fun rest => by rw [hrest rest]; rfl⟩

theorem nodup_arrivalsFrom (seen : List Nat) (members : List (String × α)) :
    ((arrivalsFrom fields seen members).fields.map (·.1)).Nodup
      ∧ ∀ x ∈ (arrivalsFrom fields seen members).fields, x.1 ∉ seen ∧ x.1 < fields.length := by
  induction members generalizing seen with
  | nil => simp [arrivalsFrom]
  | cons m members ih =>
    obtain ⟨name, a⟩ := m
    rw [arrivalsFrom]
    cases hname : fieldOf? fields name with
    | none => exact ih seen
    | some i =>
      by_cases hseen : i ∈ seen
      · simp [hseen]
      · obtain ⟨hnodup, hfresh⟩ := ih (i :: seen)
        simp only [if_neg hseen, List.map_cons, List.nodup_cons, List.forall_mem_cons]
        refine ⟨⟨fun hmem => ?_, hnodup⟩, ⟨hseen, ?_⟩, fun x hx => ?_⟩
        · obtain ⟨x, hx, rfl⟩ := List.mem_map.mp hmem
          exact (hfresh x hx).1 List.mem_cons_self
        · exact (List.findIdx?_eq_some_iff_findIdx_eq.mp hname).1
        · exact ⟨fun hold => (hfresh x hx).1 (List.mem_cons_of_mem _ hold), (hfresh x hx).2⟩

theorem namedMembers_cons {us : List StringUnit} {name : String} (h : textOf? us = some name)
    (room : Nat) (t : Tree) (ms : List (List StringUnit × Tree)) :
    namedMembers room ((us, t) :: ms)
      = ((name, ⟨room, t⟩) :: (namedMembers room ms).1, (namedMembers room ms).2) := by
  rw [namedMembers, h]

theorem namedMembers_append (room : Nat) (xs ys : List (List StringUnit × Tree)) :
    namedMembers room (xs ++ ys) = if (namedMembers room xs).2 then
        ((namedMembers room xs).1 ++ (namedMembers room ys).1, (namedMembers room ys).2)
      else namedMembers room xs := by
  induction xs with
  | nil => rfl
  | cons m xs ih =>
    obtain ⟨us, t⟩ := m
    rw [List.cons_append, namedMembers, namedMembers]
    cases textOf? us with
    | none => rfl
    | some name =>
      simp only [ih]
      split <;> rfl

/-! ## What is written for a field -/

theorem find?_arrivalsFrom {α : Type} {members : List (String × α)} {seen : List Nat}
    (hsound : (arrivalsFrom fields seen members).sound) (hi : i ∉ seen) :
    ((arrivalsFrom fields seen members).fields.find? (·.1 == i)).map (·.2)
      = (members.find? fun m => fieldOf? fields m.1 == some i).map (·.2) := by
  induction members generalizing seen with
  | nil => rfl
  | cons m members ih =>
    obtain ⟨name, a⟩ := m
    rw [arrivalsFrom] at hsound ⊢
    cases hj : fieldOf? fields name with
    | none => simp_all
    | some j =>
      by_cases hseen : j ∈ seen
      · simp [hj, hseen] at hsound
      · simp only [hj, if_neg hseen] at hsound ⊢
        by_cases hij : j = i
        · simp [hij, hj]
        · simp [hij, hj, ih hsound (by simp [hi, Ne.symm hij])]

theorem find?_zip_range' {α : Type} (items : List α) (start i n : Nat) :
    (((List.range' start n).zip items).find? (·.1 == start + i)).map (·.2)
      = if i < n then items[i]? else none := by
  induction items generalizing start i n with
  | nil => simp
  | cons a items ih =>
    cases n with
    | zero => simp
    | succ n =>
      rw [List.range'_succ, List.zip_cons_cons]
      cases i with
      | zero => simp
      | succ i =>
        have hnext : start + (i + 1) = start + 1 + i := by omega
        have hne : start ≠ start + 1 + i := by omega
        simp [hnext, hne, ih]

/-! ## Records -/

/-- The records have the source at a position and are the same elsewhere, or there are none. -/
def HoldAt (i : Nat) (place : β → α) (record? : β → Option (Record α)) : Prop :=
  (∀ b, record? b = none)
    ∨ ∃ p q, (∀ x ∈ p, x.1 ≠ i) ∧ ∀ b, record? b = some ⟨p ++ (i, place b) :: q⟩

namespace Record

theorem read?_of_object [Source α] {a : α} {members : List (String × α)} {sound : Bool}
    (hview : view a = .object members sound) :
    read? fields a = if (arrivalsFrom fields [] members).sound && sound then
        some ⟨(arrivalsFrom fields [] members).fields⟩
      else none := by
  unfold read? arrivals?
  simp only [hview]
  split <;> simp_all

theorem read?_of_array [Source α] {a : α} {items : List α} (hview : view a = .array items) :
    read? fields a = if items.length ≤ fields.length then
        some ⟨(List.range fields.length).zip items⟩
      else none := by
  unfold read? arrivals? arrivalsInOrder
  simp only [hview]
  split <;> simp_all

theorem slot?_of_object [Source α] {a : α} {r : Record α} {members : List (String × α)}
    {sound : Bool} (hview : view a = .object members sound) (h : read? fields a = some r)
    (i : Nat) : r.slot? i = (members.find? fun m => fieldOf? fields m.1 == some i).map (·.2) := by
  rw [read?_of_object hview] at h
  split at h
  · next hsound =>
    cases h
    exact find?_arrivalsFrom (Bool.and_eq_true_iff.mp hsound).1 List.not_mem_nil
  · cases h

theorem slot?_of_array [Source α] {a : α} {r : Record α} {items : List α}
    (hview : view a = .array items) (h : read? fields a = some r) (i : Nat) :
    r.slot? i = if i < fields.length then items[i]? else none := by
  rw [read?_of_array hview] at h
  split at h
  · cases h
    have hfind := find?_zip_range' items 0 i fields.length
    rwa [Nat.zero_add, ← List.range_eq_range'] at hfind
  · cases h

theorem slot?_self {p q : List (Nat × α)} (hp : ∀ x ∈ p, x.1 ≠ i) (a : α) :
    (⟨p ++ (i, a) :: q⟩ : Record α).slot? i = some a := by
  have hnone : p.find? (·.1 == i) = none :=
    List.find?_eq_none.mpr fun x hx => by simpa using hp x hx
  simp [slot?, hnone]

theorem slot?_of_ne {j : Nat} (hj : j ≠ i) (p q : List (Nat × α)) (a : α) :
    (⟨p ++ (i, a) :: q⟩ : Record α).slot? j = (⟨p ++ q⟩ : Record α).slot? j := by
  simp [slot?, Ne.symm hj]

variable [Source α]

theorem optional_of_ne {j : Nat} (hj : j ≠ i) (p q : List (Nat × α)) (a : α)
    (item : α → Option β) : (⟨p ++ (i, a) :: q⟩ : Record α).optional j item
      = (⟨p ++ q⟩ : Record α).optional j item := by
  unfold optional
  rw [slot?_of_ne hj]

theorem orElse_of_ne {j : Nat} (hj : j ≠ i) (p q : List (Nat × α)) (a : α) (default : β)
    (item : α → Option β) : (⟨p ++ (i, a) :: q⟩ : Record α).orElse j default item
      = (⟨p ++ q⟩ : Record α).orElse j default item := by
  unfold orElse
  rw [optional_of_ne hj]

end Record

/-! ## Fields that come once -/

theorem map_fst_zip_sublist (xs : List α) (ys : List β) :
    ((xs.zip ys).map Prod.fst).Sublist xs := by
  induction xs generalizing ys with
  | nil => simp
  | cons x xs ih =>
    cases ys with
    | nil => simp
    | cons y ys => simpa using ih ys

theorem arrivals?_keys [Source α] {a : α} {found : Arrivals α}
    (h : arrivals? fields a = some found) :
    (found.fields.map (·.1)).Nodup ∧ ∀ x ∈ found.fields, x.1 < fields.length := by
  unfold arrivals? at h
  split at h
  · next members sound hview =>
    cases h
    obtain ⟨hnodup, hkeys⟩ : ((arrivalsFrom fields [] members).fields.map (·.1)).Nodup ∧ _ :=
      nodup_arrivalsFrom [] members
    exact ⟨hnodup, fun x hx => (hkeys x hx).2⟩
  · next items hview =>
    cases h
    refine ⟨(map_fst_zip_sublist _ items).nodup List.nodup_range, fun x hx => ?_⟩
    exact List.mem_range.mp (List.of_mem_zip hx).1
  · cases h

theorem Record.keys_of_read? [Source α] {a : α} {r : Record α}
    (h : Record.read? fields a = some r) :
    (r.slots.map (·.1)).Nodup ∧ ∀ x ∈ r.slots, x.1 < fields.length := by
  unfold Record.read? at h
  split at h
  · next slots hfound =>
    cases h
    exact arrivals?_keys hfound
  · cases h

theorem Record.slot?_of_mem {r : Record α} (h : (r.slots.map (·.1)).Nodup) {x : Nat × α}
    (hx : x ∈ r.slots) : r.slot? x.1 = some x.2 := by
  obtain ⟨slots⟩ := r
  unfold Record.slot?
  induction slots with
  | nil => cases hx
  | cons y slots ih =>
    rw [List.map_cons, List.nodup_cons] at h
    rcases List.mem_cons.mp hx with rfl | hx
    · simp
    · have hne : (y.1 == x.1) = false := by
        refine beq_eq_false_iff_ne.mpr fun heq => h.1 ?_
        exact List.mem_map.mpr ⟨x, hx, heq.symm⟩
      rw [List.find?_cons, hne]
      exact ih h.2 hx

theorem Record.isSome_of_optional [Source α] {r : Record α} {a : α} {item : α → Option β}
    {o : Option β} (hslot : r.slot? i = some a) (h : r.optional i item = some o) :
    (readNullable item a).isSome = true := by
  simp only [Record.optional, hslot] at h
  rw [h, Option.isSome_some]

theorem Record.isSome_of_orElse [Source α] {r : Record α} {a : α} {item : α → Option β}
    {default b : β} (hslot : r.slot? i = some a) (h : r.orElse i default item = some b) :
    (readNullable item a).isSome = true := by
  obtain ⟨o, ho, -⟩ := Option.map_eq_some_iff.mp h
  exact Record.isSome_of_optional hslot ho

theorem key_ne_of_nodup {p q : List (Nat × α)} {a : α}
    (h : ((p ++ (i, a) :: q).map (·.1)).Nodup) {x : Nat × α} (hx : x ∈ p) : x.1 ≠ i := by
  rw [List.map_append, List.nodup_append] at h
  exact h.2.2 _ (List.mem_map_of_mem hx) _ List.mem_cons_self

/-! ## Containers around a source -/

/-- The container waits for the field at a position. -/
def Frame.Awaits (fields : List Field) (i : Nat) : Frame → Prop
  | .member _ us => (textOf? us).bind (fieldOf? fields) = some i
  | .array items => items.length = i ∧ i < fields.length

theorem Record.read?_of_members {members : List (List StringUnit × Tree)} {room : Nat} :
    Record.read? fields (Placed.mk (room + 1) (.object members))
      = if (arrivalsFrom fields [] (namedMembers room members).1).sound
          && (namedMembers room members).2 then
        some ⟨(arrivalsFrom fields [] (namedMembers room members).1).fields⟩
      else none :=
  Record.read?_of_object rfl

theorem holdAt_object {us : List StringUnit} (h : (textOf? us).bind (fieldOf? fields) = some i)
    (room : Nat) (before after : List (List StringUnit × Tree)) :
    HoldAt i (Placed.mk room) fun t =>
      Record.read? fields (Placed.mk (room + 1) (.object (before ++ (us, t) :: after))) := by
  obtain ⟨name, hname, hfield⟩ := Option.bind_eq_some_iff.mp h
  have hmembers : ∀ t, namedMembers room (before ++ (us, t) :: after)
      = if (namedMembers room before).2 then
          ((namedMembers room before).1 ++ (name, ⟨room, t⟩) :: (namedMembers room after).1,
            (namedMembers room after).2)
        else namedMembers room before := by
    intro t
    rw [namedMembers_append, namedMembers_cons hname]
  unfold HoldAt
  simp only [Record.read?_of_members, hmembers]
  cases hbefore : (namedMembers room before).2 with
  | false => simp [hbefore]
  | true =>
    cases hafter : (namedMembers room after).2 with
    | false => simp
    | true =>
      rcases arrivalsFrom_append hfield (namedMembers room before).1 (namedMembers room after).1 []
        with hfault | ⟨p, q, hp, hfound⟩
      · exact .inl fun t => by simp [hfault]
      · exact .inr ⟨p, q, hp, fun t => by simp [hfound]⟩

theorem Record.read?_of_items {items : List Tree} {room : Nat} :
    Record.read? fields (Placed.mk (room + 1) (.array items))
      = if items.length ≤ fields.length then
        some ⟨(List.range fields.length).zip (items.map (Placed.mk room))⟩
      else none := by
  rw [Record.read?_of_array rfl, List.length_map]

theorem zip_range_append {n : Nat} {before : List α} (h : before.length = i) (hi : i < n) (a : α)
    (after : List α) :
    (List.range n).zip (before ++ a :: after) = (List.range i).zip before
      ++ (i, a) :: (List.range' (i + 1) (n - (i + 1))).zip after := by
  obtain ⟨m, hm⟩ := Nat.exists_eq_add_of_lt hi
  have hrest : n - (i + 1) = m := by omega
  have hpositions : List.range n = List.range i ++ i :: List.range' (i + 1) m := by
    rw [hm, Nat.add_assoc, List.range_eq_range', List.range_eq_range', ← List.range'_append_1,
      List.range'_succ, Nat.zero_add]
  rw [hrest, hpositions, List.zip_append (by simp [h])]
  rfl

theorem holdAt_array {before : List Tree} (h : before.length = i) (hi : i < fields.length)
    (room : Nat) (after : List Tree) :
    HoldAt i (Placed.mk room) fun t =>
      Record.read? fields (Placed.mk (room + 1) (.array (before ++ t :: after))) := by
  unfold HoldAt
  simp only [Record.read?_of_items, List.length_append, List.length_cons]
  by_cases hlength : before.length + (after.length + 1) ≤ fields.length
  · right
    refine ⟨(List.range i).zip (before.map (Placed.mk room)),
      (List.range' (i + 1) (fields.length - (i + 1))).zip (after.map (Placed.mk room)),
      fun x hx => ?_, fun t => ?_⟩
    · have hmem := List.mem_range.mp (List.of_mem_zip hx).1
      omega
    · rw [if_pos hlength, List.map_append, List.map_cons,
        zip_range_append (by rw [List.length_map, h]) hi]
  · exact .inl fun t => if_neg hlength

/-! ## Fields before a source -/

theorem arrivals?_object (room : Nat) (ms : List (List StringUnit × Tree)) :
    arrivals? fields (Placed.mk (room + 1) (.object ms))
      = some ⟨(arrivalsFrom fields [] (namedMembers room ms).1).fields,
        (arrivalsFrom fields [] (namedMembers room ms).1).sound && (namedMembers room ms).2⟩ := rfl

/-- The fields that an object passes on before a source are settled by what stands before it, if
    there is one way to go on without a fault. -/
theorem exists_arrivals_object {us : List StringUnit} {room : Nat} {t₀ : Tree}
    {before after₀ : List (List StringUnit × Tree)} {r₀ : Record Placed}
    (h : (textOf? us).bind (fieldOf? fields) = some i)
    (hr₀ : Record.read? fields (Placed.mk (room + 1) (.object (before ++ (us, t₀) :: after₀)))
      = some r₀) (t : Tree) (after : List (List StringUnit × Tree)) :
    ∃ p q₀ q, r₀.slots = p ++ (i, ⟨room, t₀⟩) :: q₀
      ∧ (arrivals? fields (Placed.mk (room + 1) (.object (before ++ (us, t) :: after)))).map
          (·.fields)
        = some (p ++ (i, ⟨room, t⟩) :: q) := by
  obtain ⟨name, hname, hfield⟩ := Option.bind_eq_some_iff.mp h
  rw [Record.read?_of_members, namedMembers_append, namedMembers_cons hname] at hr₀
  cases hbefore : (namedMembers room before).2 with
  | false => simp [hbefore] at hr₀
  | true =>
    rw [hbefore, if_pos rfl] at hr₀
    split at hr₀
    case isFalse => cases hr₀
    next hsound =>
      rw [Bool.and_eq_true] at hsound
      obtain ⟨seen, hrest⟩ := arrivalsFrom_append_of_sound hsound.1
      have hfresh : i ∉ seen := by
        intro hmem
        have hfault := hsound.1
        simp [hrest, arrivalsFrom, hfield, hmem] at hfault
      have hfound : ∀ (a : Placed) rest, arrivalsFrom fields seen ((name, a) :: rest)
          = ⟨(i, a) :: (arrivalsFrom fields (i :: seen) rest).fields,
            (arrivalsFrom fields (i :: seen) rest).sound⟩ := by
        intro a rest
        rw [arrivalsFrom, hfield]
        simp [hfresh]
      refine ⟨(arrivalsFrom fields [] (namedMembers room before).1).fields,
        (arrivalsFrom fields (i :: seen) (namedMembers room after₀).1).fields,
        (arrivalsFrom fields (i :: seen) (namedMembers room after).1).fields, ?_, ?_⟩
      · rw [← Option.some.inj hr₀, hrest, hfound]
      · rw [arrivals?_object, namedMembers_append, namedMembers_cons hname, if_pos hbefore, hrest,
          hfound, Option.map_some]

theorem exists_arrivals_array {before after₀ : List Tree} {room : Nat} {t₀ : Tree}
    {r₀ : Record Placed} (h : before.length = i) (hi : i < fields.length)
    (hr₀ : Record.read? fields (Placed.mk (room + 1) (.array (before ++ t₀ :: after₀))) = some r₀)
    (t : Tree) (after : List Tree) :
    ∃ p q₀ q, r₀.slots = p ++ (i, ⟨room, t₀⟩) :: q₀
      ∧ (arrivals? fields (Placed.mk (room + 1) (.array (before ++ t :: after)))).map (·.fields)
        = some (p ++ (i, ⟨room, t⟩) :: q) := by
  have hzip : ∀ t after,
      (List.range fields.length).zip ((before ++ t :: after).map (Placed.mk room))
      = (List.range i).zip (before.map (Placed.mk room)) ++ (i, ⟨room, t⟩)
        :: (List.range' (i + 1) (fields.length - (i + 1))).zip (after.map (Placed.mk room)) := by
    intro t after
    rw [List.map_append, List.map_cons, zip_range_append (by rw [List.length_map, h]) hi]
  rw [Record.read?_of_items] at hr₀
  split at hr₀
  · exact ⟨_, _, _, by rw [← Option.some.inj hr₀, hzip], congrArg some (hzip t after)⟩
  · cases hr₀

end BlockMail.Json
