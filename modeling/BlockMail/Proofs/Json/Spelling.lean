import BlockMail.Proofs.Json.Edits
import Mathlib.Data.List.Nodup

/-! # Names for one field

A field may have several names, and the members of an object may come in any order.  What counts of
a member is the field that it is for and what it holds, its `meaning`; the order of the meanings
does not count either, as long as no two of them are for one field (`find?_eq_some_iff_of_apart`).
So an object that is written in another way has the same record, or neither has one:
`Rewritten.recordsAlike`.  Two members for one field leave no record, whatever they hold.
-/

namespace BlockMail.Json

variable {α β : Type} {fields : List Field} {i : Nat} {ms ms' : List (String × α)}

/-! ## Members -/

/-- The field that a member is for, if any, and what it holds. -/
def meaning (fields : List Field) (m : String × α) : Option Nat × α := (fieldOf? fields m.1, m.2)

/-- Members that are written in another way: one of them by another name of its field, or in
    another order. -/
inductive Respelled (fields : List Field) : List (String × α) → List (String × α) → Prop
  | nil : Respelled fields [] []
  | cons (m : String × α) {ms ms' : List (String × α)} (h : Respelled fields ms ms') :
      Respelled fields (m :: ms) (m :: ms')
  | rename {name name' : String} {i : Nat} (hname : fieldOf? fields name = some i)
      (hname' : fieldOf? fields name' = some i) (a : α) (ms : List (String × α)) :
      Respelled fields ((name, a) :: ms) ((name', a) :: ms)
  | swap (m n : String × α) (ms : List (String × α)) :
      Respelled fields (m :: n :: ms) (n :: m :: ms)
  | trans {ms ns ms' : List (String × α)} (h : Respelled fields ms ns)
      (h' : Respelled fields ns ms') : Respelled fields ms ms'

namespace Respelled

theorem of_perm (h : ms.Perm ms') : Respelled fields ms ms' := by
  induction h with
  | nil => exact .nil
  | cons m _ ih => exact .cons m ih
  | swap m n ms => exact .swap n m ms
  | trans _ _ ih ih' => exact .trans ih ih'

theorem perm_meaning (h : Respelled fields ms ms') :
    (ms.map (meaning fields)).Perm (ms'.map (meaning fields)) := by
  induction h with
  | nil => exact .nil
  | cons m _ ih => exact ih.cons _
  | rename hname hname' a ms => simp [meaning, hname, hname']
  | swap m n ms => exact .swap _ _ _
  | trans _ _ ih ih' => exact ih.trans ih'

theorem forall_iff {P : α → Prop} (h : Respelled fields ms ms') :
    (∀ m ∈ ms, P m.2) ↔ ∀ m ∈ ms', P m.2 := by
  induction h with
  | nil => rfl
  | cons m _ ih => rw [List.forall_mem_cons, List.forall_mem_cons, ih]
  | rename => rw [List.forall_mem_cons, List.forall_mem_cons]
  | swap => simp only [List.forall_mem_cons, and_left_comm]
  | trans _ _ ih ih' => rw [ih, ih']

end Respelled

theorem pairwise_apart_iff_meaning :
    (ms.Pairwise fun m n => Apart fields m.1 n.1)
      ↔ (ms.map (meaning fields)).Pairwise fun x y => ∀ i ∈ x.1, i ∉ y.1 := by
  rw [List.pairwise_map]
  rfl

theorem pairwise_apart_of_perm (h : (ms.map (meaning fields)).Perm (ms'.map (meaning fields)))
    (hapart : ms.Pairwise fun m n => Apart fields m.1 n.1) :
    ms'.Pairwise fun m n => Apart fields m.1 n.1 := by
  rw [pairwise_apart_iff_meaning] at hapart ⊢
  exact hapart.perm h fun hxy i hy hx => hxy i hx hy

theorem find?_eq_some_iff_of_apart (hapart : ms.Pairwise fun m n => Apart fields m.1 n.1) {a : α} :
    (ms.find? fun m => fieldOf? fields m.1 == some i).map (·.2) = some a
      ↔ (some i, a) ∈ ms.map (meaning fields) := by
  constructor
  · intro h
    obtain ⟨m, hm, rfl⟩ := Option.map_eq_some_iff.mp h
    refine List.mem_map.mpr ⟨m, List.mem_of_find?_eq_some hm, ?_⟩
    rw [meaning, fieldOf?_of_find? hm]
  · intro h
    obtain ⟨m, hm, hmeaning⟩ := List.mem_map.mp h
    obtain ⟨hfield, rfl⟩ := Prod.mk.inj hmeaning
    have hsome : (ms.find? fun m => fieldOf? fields m.1 == some i).isSome :=
      List.find?_isSome.mpr ⟨m, hm, by rw [hfield, beq_self_eq_true]⟩
    obtain ⟨n, hn⟩ := Option.isSome_iff_exists.mp hsome
    rw [hn]
    by_contra hne
    exact hapart.forall (List.mem_of_find?_eq_some hn) hm (fun heq => hne (by rw [heq]; rfl)) i
      (fieldOf?_of_find? hn) hfield

theorem find?_eq_of_perm (h : (ms.map (meaning fields)).Perm (ms'.map (meaning fields)))
    (hapart : ms.Pairwise fun m n => Apart fields m.1 n.1) (i : Nat) :
    (ms.find? fun m => fieldOf? fields m.1 == some i).map (·.2)
      = (ms'.find? fun m => fieldOf? fields m.1 == some i).map (·.2) := by
  ext a
  rw [find?_eq_some_iff_of_apart hapart,
    find?_eq_some_iff_of_apart (pairwise_apart_of_perm h hapart), h.mem_iff]

/-! ## Objects -/

section Source

variable [Source α] {a a' b b' : α}

/-- An object that is written in another way.  Where a name is no text, all that counts is that one
    still is none. -/
inductive Rewritten (fields : List Field) (a a' : α) : Prop
  | members {ms ms' : List (String × α)} (hview : view a = .object ms true)
      (hview' : view a' = .object ms' true) (h : Respelled fields ms ms')
  | unsound {ms ms' : List (String × α)} (hview : view a = .object ms false)
      (hview' : view a' = .object ms' false)

/-- An object that has two members by different names of one field, or in which a name is no
    text. -/
inductive TwoSpellings (fields : List Field) (a : α) : Prop
  | members {ms : List (String × α)} (hview : view a = .object ms true) {m n : String × α}
      (hm : m ∈ ms) (hn : n ∈ ms) (hne : m.1 ≠ n.1) {i : Nat}
      (hfield : fieldOf? fields m.1 = some i) (hfield' : fieldOf? fields n.1 = some i)
  | unsound {ms : List (String × α)} (hview : view a = .object ms false)

/-- Two containers that are the same but for what stands for one field. -/
inductive Exchanged (fields : List Field) (i : Nat) (b b' a a' : α) : Prop
  | member {name : String} {before after : List (String × α)} {sound : Bool}
      (hname : fieldOf? fields name = some i)
      (hview : view a = .object (before ++ (name, b) :: after) sound)
      (hview' : view a' = .object (before ++ (name, b') :: after) sound)
  | item {before after : List α} (hlength : before.length = i)
      (hview : view a = .array (before ++ b :: after))
      (hview' : view a' = .array (before ++ b' :: after))

/-- A container in which something stands for a field. -/
inductive Holds (fields : List Field) (i : Nat) (b a : α) : Prop
  | member {name : String} {ms : List (String × α)} {sound : Bool}
      (hname : fieldOf? fields name = some i) (hview : view a = .object ms sound)
      (hm : (name, b) ∈ ms)
  | item {items : List α} (hview : view a = .array items) (hitem : items[i]? = some b)

/-- What an object is read as does not depend on the way in which it is written. -/
theorem Rewritten.recordsAlike (h : Rewritten fields a a') : RecordsAlike fields nowhere a a' := by
  unfold RecordsAlike
  cases h with
  | @members ms ms' hview hview' h =>
    have hperm := h.perm_meaning
    by_cases hapart : ms.Pairwise fun m n => Apart fields m.1 n.1
    · obtain ⟨r, hr⟩ := Record.exists_read?_of_apart hview hapart
      obtain ⟨r', hr'⟩ :=
        Record.exists_read?_of_apart hview' (pairwise_apart_of_perm hperm hapart)
      rw [hr, hr']
      refine .some fun i => ?_
      rw [Record.slot?_of_object hview hr, Record.slot?_of_object hview' hr',
        find?_eq_of_perm hperm hapart i]
      exact .same _
    · have hapart' : ¬ ms'.Pairwise fun m n => Apart fields m.1 n.1 :=
        fun h' => hapart (pairwise_apart_of_perm hperm.symm h')
      rw [Record.read?_of_not_apart hview hapart, Record.read?_of_not_apart hview' hapart']
      exact .none
  | unsound hview hview' =>
    rw [Record.read?_of_unsound hview, Record.read?_of_unsound hview']
    exact .none

theorem Rewritten.isNull_eq_false (h : Rewritten fields a a') :
    isNull a = false ∧ isNull a' = false := by
  unfold isNull
  cases h with
  | members hview hview' | unsound hview hview' =>
    rw [hview, hview']
    exact ⟨rfl, rfl⟩

theorem TwoSpellings.read?_eq_none (h : TwoSpellings fields a) : Record.read? fields a = none := by
  cases h with
  | members hview hm hn hne hfield hfield' =>
    refine Record.read?_of_not_apart hview fun hapart => ?_
    exact hapart.forall hm hn (fun heq => hne (congrArg Prod.fst heq)) _ hfield hfield'
  | unsound hview => exact Record.read?_of_unsound hview

theorem TwoSpellings.isNull_eq_false (h : TwoSpellings fields a) : isNull a = false := by
  unfold isNull
  cases h with
  | members hview | unsound hview => rw [hview]

theorem Rewritten.readNullable_eq {item : α → Option β} (h : Rewritten fields a a')
    (hitem : item a = item a') : readNullable item a = readNullable item a' := by
  obtain ⟨hnull, hnull'⟩ := h.isNull_eq_false
  unfold readNullable
  rw [hnull, hnull', hitem]

theorem TwoSpellings.readNullable_eq_none {item : α → Option β} (h : TwoSpellings fields a)
    (hitem : item a = none) : readNullable item a = none := by
  unfold readNullable
  rw [h.isNull_eq_false, hitem]
  rfl

/-- The only thing that stands for the field is exchanged. -/
def exchange (i : Nat) (b b' : α) (j : Nat) (c c' : α) : Prop := j = i ∧ c = b ∧ c' = b'

theorem Record.alike_exchange {p q : List (Nat × α)} (hp : ∀ x ∈ p, x.1 ≠ i) :
    Record.Alike (exchange i b b') ⟨p ++ (i, b) :: q⟩ ⟨p ++ (i, b') :: q⟩ := by
  intro j
  by_cases hj : j = i
  · subst hj
    rw [Record.slot?_self hp, Record.slot?_self hp]
    exact .changed ⟨rfl, rfl, rfl⟩
  · rw [Record.slot?_of_ne hj, Record.slot?_of_ne hj]
    exact .same _

/-- A container is read as one that differs in the field only, or neither has a record. -/
theorem Exchanged.recordsAlike (h : Exchanged fields i b b' a a') :
    RecordsAlike fields (exchange i b b') a a' := by
  unfold RecordsAlike
  cases h with
  | @member name before after sound hname hview hview' =>
    rw [Record.read?_of_object hview, Record.read?_of_object hview']
    rcases arrivalsFrom_append hname before after [] with hfault | ⟨p, q, hp, hfound⟩
    · rw [hfault, hfault]
      exact .none
    · rw [hfound, hfound]
      cases sound with
      | false => exact .none
      | true => exact .some (Record.alike_exchange hp)
  | @item before after hlength hview hview' =>
    rw [Record.read?_of_array hview, Record.read?_of_array hview']
    simp only [List.length_append, List.length_cons]
    by_cases hfit : before.length + (after.length + 1) ≤ fields.length
    · have hi : i < fields.length := by omega
      rw [if_pos hfit, if_pos hfit, zip_range_append hlength hi, zip_range_append hlength hi]
      refine .some (Record.alike_exchange fun x hx => ?_)
      have hmem := List.mem_range.mp (List.of_mem_zip hx).1
      omega
    · rw [if_neg hfit, if_neg hfit]
      exact .none

theorem Holds.slot?_eq {r : Record α} (h : Holds fields i b a)
    (hr : Record.read? fields a = some r) (hi : i < fields.length) : r.slot? i = some b := by
  cases h with
  | @member name ms sound hname hview hm =>
    rw [Record.slot?_of_object hview hr,
      find?_eq_some_iff_of_apart (Record.apart_of_read? hview hr)]
    exact List.mem_map.mpr ⟨_, hm, by rw [meaning, hname]⟩
  | item hview hitem => rw [Record.slot?_of_array hview hr, if_pos hi, hitem]

end Source

/-! ## Texts and their values -/

theorem perm_ofList {pairs : List (String × α)} (h : (pairs.map (·.1)).Nodup) :
    (Dict.ofList pairs).entries.Perm pairs := by
  have hentries : (Dict.ofList pairs).entries.Nodup := by
    refine (Dict.ofList pairs).sorted.imp fun {m n} hlt => ?_
    rintro rfl
    exact String.lt_irrefl m.1 hlt
  refine (List.perm_ext_iff_of_nodup hentries (List.Nodup.of_map _ h)).mpr fun m => ?_
  refine ⟨Dict.mem_ofList, fun hm => ?_⟩
  obtain ⟨n, hn, hname⟩ := Dict.exists_entry_of_mem hm
  rw [← List.inj_on_of_nodup_map h (Dict.mem_ofList hn) hm hname]
  exact hn

/-- No name comes twice. -/
def NamesOnce [Source α] (a : α) : Prop :=
  ∀ ms sound, view a = .object ms sound → (ms.map (·.1)).Nodup

theorem Respelled.exists_denoted {ms ms' : List (String × Placed)} {pairs : List (String × Value)}
    (h : Respelled fields ms ms') (hpairs : List.Forall₂ MemberDenotes ms pairs) :
    ∃ pairs', List.Forall₂ MemberDenotes ms' pairs' ∧ Respelled fields pairs pairs' := by
  induction h generalizing pairs with
  | nil =>
    cases hpairs
    exact ⟨[], .nil, .nil⟩
  | cons m _ ih =>
    cases hpairs with
    | @cons _ e _ _ he hrest =>
      obtain ⟨pairs', hpairs', hrespelled⟩ := ih hrest
      exact ⟨e :: pairs', .cons he hpairs', .cons e hrespelled⟩
  | @rename name name' i hname hname' a ms =>
    cases hpairs with
    | @cons _ e _ rest he hrest =>
      obtain ⟨written, v⟩ := e
      obtain ⟨rfl, hv⟩ := he
      exact ⟨(name', v) :: rest, .cons ⟨rfl, hv⟩ hrest, .rename hname hname' v rest⟩
  | swap m n ms =>
    cases hpairs with
    | @cons _ e _ _ he hrest =>
      cases hrest with
      | @cons _ f _ rest hf hrest =>
        exact ⟨f :: e :: rest, .cons hf (.cons he hrest), .swap e f rest⟩
  | trans _ _ ih ih' =>
    obtain ⟨pairs', hpairs', hrespelled⟩ := ih hpairs
    obtain ⟨pairs'', hpairs'', hrespelled'⟩ := ih' hpairs'
    exact ⟨pairs'', hpairs'', hrespelled.trans hrespelled'⟩

theorem memberDenotes_unique : Relator.RightUnique MemberDenotes := by
  intro m e f he hf
  exact Prod.ext (he.1.symm.trans hf.1) (he.2.unique hf.2)

variable {p p' q q' : Placed} {v v' : Value}

theorem exists_pairs_of_view {ms : List (String × Placed)} (h : p.Denotes v)
    (hview : view p = .object ms true) :
    ∃ pairs, List.Forall₂ MemberDenotes ms pairs
      ∧ view v = .object (Dict.ofList pairs).entries true := by
  have hlayers := view_agrees h
  rw [hview] at hlayers
  generalize hw : view v = w at hlayers
  cases hlayers with
  | object hpairs => exact ⟨_, hpairs, rfl⟩

theorem Rewritten.denotes (h : Rewritten fields p p') (honce : NamesOnce p) (honce' : NamesOnce p')
    (hv : p.Denotes v) (hv' : p'.Denotes v') : Rewritten fields v v' := by
  cases h with
  | members hview hview' h =>
    obtain ⟨pairs, hpairs, hw⟩ := exists_pairs_of_view hv hview
    obtain ⟨pairs', hpairs', hw'⟩ := exists_pairs_of_view hv' hview'
    obtain ⟨found, hfound, hrespelled⟩ := h.exists_denoted hpairs
    obtain rfl : found = pairs' := memberDenotes_unique.forall₂ hfound hpairs'
    have hperm := perm_ofList (names_of_forall₂ hpairs ▸ honce _ _ hview)
    have hperm' := perm_ofList (names_of_forall₂ hpairs' ▸ honce' _ _ hview')
    exact .members hw hw' ((Respelled.of_perm hperm).trans
      (hrespelled.trans (Respelled.of_perm hperm'.symm)))
  | unsound hview => exact absurd hv (not_denotes_of_unsound hview v)

theorem Rewritten.readable_iff (h : Rewritten fields p p') : Readable p ↔ Readable p' := by
  cases h with
  | members hview hview' h =>
    rw [readable_object_iff hview, readable_object_iff hview', h.forall_iff]
  | unsound hview hview' =>
    exact iff_of_false (not_readable_of_unsound hview) (not_readable_of_unsound hview')

theorem Exchanged.readable_iff (h : Exchanged fields i q q' p p') (hq : Readable q ↔ Readable q') :
    Readable p ↔ Readable p' := by
  cases h with
  | @member _ _ _ sound _ hview hview' =>
    cases sound with
    | false => exact iff_of_false (not_readable_of_unsound hview) (not_readable_of_unsound hview')
    | true =>
      rw [readable_object_iff hview, readable_object_iff hview']
      simp only [List.forall_mem_append, List.forall_mem_cons, hq]
  | item _ hview hview' =>
    rw [readable_array_iff hview, readable_array_iff hview']
    simp only [List.forall_mem_append, List.forall_mem_cons, hq]

theorem TwoSpellings.denotes (h : TwoSpellings fields p) (hv : p.Denotes v) :
    TwoSpellings fields v := by
  cases h with
  | @members ms hview m n hm hn hne i hfield hfield' =>
    obtain ⟨pairs, hpairs, hw⟩ := exists_pairs_of_view hv hview
    -- of two members of one name the value keeps one, but the two spellings are two names
    have hkept : ∀ m ∈ ms, ∃ e ∈ (Dict.ofList pairs).entries, e.1 = m.1 := by
      intro m hm
      have hname : m.1 ∈ pairs.map (·.1) := names_of_forall₂ hpairs ▸ List.mem_map_of_mem hm
      obtain ⟨e, he, heq⟩ := List.mem_map.mp hname
      obtain ⟨e', he', heq'⟩ := Dict.exists_entry_of_mem he
      exact ⟨e', he', heq'.trans heq⟩
    obtain ⟨e, he, hem⟩ := hkept m hm
    obtain ⟨f, hf, hfn⟩ := hkept n hn
    refine .members hw he hf ?_ (hem ▸ hfield) (hfn ▸ hfield')
    rw [hem, hfn]
    exact hne
  | unsound hview => exact absurd hv (not_denotes_of_unsound hview v)

end BlockMail.Json
