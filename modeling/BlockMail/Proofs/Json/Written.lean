import BlockMail.Proofs.Json.Layers
import BlockMail.Proofs.Json.Printing
import BlockMail.Proofs.Json.Spelling

/-! # Values that come back

The text of a value shows the value layer by layer, as the value itself does (`writes_asTree`).  A
reader that asks for everything below at once gets the value back from a text where the text can
hold it: `Value.Writable`.  Every value without decimals that was read from a text is one:
`FloatFree.writable`.
-/

namespace BlockMail.Json

/-! ## Layers -/

def asTree (room : Nat) (v : Value) : Placed := ⟨room, v.tree⟩

theorem number?_numeral {n : Int} (hlow : Int64.minValue.toInt ≤ n) (hhigh : n < UInt64.size) :
    (Number.integer n).numeral.number? = some (.integer n) := by
  have hmin : Int64.minValue.toInt = -9223372036854775808 := rfl
  have hpow : Nat.pow 2 63 = 9223372036854775808 := rfl
  unfold Numeral.number? Number.numeral
  simp only [ofDigits_digitsOf, decide_eq_true_eq]
  by_cases hn : n < 0
  · have hrange : 0 < n.natAbs ∧ n.natAbs ≤ Nat.pow 2 63 := by omega
    have habs : -(n.natAbs : Int) = n := by omega
    rw [if_pos hn, if_pos hrange, habs]
  · have hrange : n.natAbs < UInt64.size := by omega
    have habs : (n.natAbs : Int) = n := by omega
    rw [if_neg hn, if_pos hrange, habs]

theorem namedMembers_memberTrees (room : Nat) (members : List (String × Value)) :
    namedMembers room (memberTrees members)
      = (members.map fun m => (m.1, asTree room m.2), true) := by
  induction members with
  | nil => rfl
  | cons m members ih =>
    obtain ⟨name, v⟩ := m
    rw [memberTrees, namedMembers_cons (textOf?_unitsOf name), ih]
    rfl

theorem writes_asTree : Writes asTree where
  null _ := rfl
  string room s := by
    show Placed.view ⟨room, Value.tree _⟩ = _
    simp only [Value.tree, Placed.view, textOf?_unitsOf]
  int64 room n := by
    have hhigh : n.toInt < UInt64.size :=
      Int.lt_of_le_of_lt (Int64.toInt_le n) (by decide)
    show Placed.view ⟨room, Value.tree (.number _)⟩ = _
    simp only [Value.tree, Placed.view]
    rw [number?_numeral (Int64.minValue_le_toInt n) hhigh]
  object room members := by
    show Placed.view ⟨room + 1, Value.tree _⟩ = _
    simp only [Value.tree, Placed.view, namedMembers_memberTrees]

/-! ## Dictionaries -/

variable {β : Type}

/-- Names in ascending order. -/
def Ascending (entries : List (String × β)) : Prop := entries.Pairwise fun a b => a.1 < b.1

theorem Ascending.nodup_names {entries : List (String × β)} (h : Ascending entries) :
    (entries.map (·.1)).Nodup := by
  refine List.pairwise_map.mpr (h.imp fun hlt heq => ?_)
  exact String.lt_irrefl _ (heq ▸ hlt)

theorem ofList_of_perm {d : Dict β} {entries : List (String × β)}
    (h : entries.Perm d.entries) : Dict.ofList entries = d := by
  have hnodup : (entries.map (·.1)).Nodup :=
    (h.map _).nodup_iff.mpr (Ascending.nodup_names d.sorted)
  refine Dict.ext (((perm_ofList hnodup).trans h).eq_of_pairwise ?_ (Dict.sorted _) d.sorted)
  intro a b _ _ hab hba
  exact absurd (String.lt_trans hab hba) (String.lt_irrefl _)

theorem ofList_of_ascending {entries : List (String × β)} (h : Ascending entries) :
    (Dict.ofList entries).entries = entries :=
  congrArg Dict.entries (ofList_of_perm (d := ⟨entries, h⟩) (List.Perm.refl _))

theorem Writes.readDict {α : Type} [Source α] {write : Nat → Value → α} (h : Writes write)
    {item : α → Option β} {toJson : β → Value} {room : Nat}
    (hitem : ∀ b, item (write room (toJson b)) = some b) {d : Dict β}
    {entries : List (String × β)} (hperm : entries.Perm d.entries) :
    Json.readDict item (write (room + 1) (.object (entries.map fun e => (e.1, toJson e.2))))
      = some d := by
  have hread (es : List (String × β)) :
      (es.map fun e => (e.1, write room (toJson e.2))).mapM
        (fun m => (item m.2).map fun b => (m.1, b)) = some es := by
    induction es with
    | nil => rfl
    | cons e es ih =>
      rw [List.map_cons, List.mapM_cons, ih, hitem]
      rfl
  rw [Json.readDict, h.object]
  simp only [List.map_map, Function.comp_def, hread, Option.map_some, ofList_of_perm hperm]

/-! ## Everything below -/

/-- The value can be had back from a text with room for so many open containers: every number is
    a whole one of 64 bits, and the names of every object ascend. -/
inductive Value.Writable : Nat → Value → Prop
  | null {room : Nat} : Writable room .null
  | bool {room : Nat} (b : Bool) : Writable room (.bool b)
  | integer {room : Nat} {n : Int} (hlow : Int64.minValue.toInt ≤ n) (hhigh : n < UInt64.size) :
      Writable room (.integer n)
  | string {room : Nat} (s : String) : Writable room (.string s)
  | array {room : Nat} {items : List Value} (h : ∀ v ∈ items, Writable room v) :
      Writable (room + 1) (.array items)
  | object {room : Nat} {members : List (String × Value)} (hnames : Ascending members)
      (h : ∀ m ∈ members, Writable room m.2) : Writable (room + 1) (.object members)

/-- No number of the value is written with a point or an exponent, or is out of range. -/
inductive Value.FloatFree : Value → Prop
  | null : FloatFree .null
  | bool (b : Bool) : FloatFree (.bool b)
  | integer (n : Int) : FloatFree (.integer n)
  | string (s : String) : FloatFree (.string s)
  | array {items : List Value} (h : ∀ v ∈ items, FloatFree v) : FloatFree (.array items)
  | object {members : List (String × Value)} (h : ∀ m ∈ members, FloatFree m.2) :
      FloatFree (.object members)

theorem itemValues?_itemTrees {room : Nat} {items : List Value}
    (h : ∀ v ∈ items, Tree.value? room v.tree = some v) :
    itemValues? room (itemTrees items) = some items := by
  induction items with
  | nil => rfl
  | cons v items ih =>
    obtain ⟨hv, hitems⟩ := List.forall_mem_cons.mp h
    rw [itemTrees, itemValues?, hv, ih hitems]
    rfl

theorem memberValues?_memberTrees {room : Nat} {members : List (String × Value)}
    (h : ∀ m ∈ members, Tree.value? room m.2.tree = some m.2) :
    memberValues? room (memberTrees members) = some members := by
  induction members with
  | nil => rfl
  | cons m members ih =>
    obtain ⟨name, v⟩ := m
    obtain ⟨hv, hmembers⟩ := List.forall_mem_cons.mp h
    rw [memberTrees, memberValues?, textOf?_unitsOf, hv, ih hmembers]
    rfl

/-- A writable value is the value of what is written for it. -/
theorem Value.Writable.value?_tree {room : Nat} {v : Value} (h : v.Writable room) :
    Tree.value? room v.tree = some v := by
  induction h with
  | null => rfl
  | bool b => rfl
  | integer hlow hhigh =>
    show (Numeral.number? _).map _ = _
    rw [number?_numeral hlow hhigh]
    rfl
  | string s => rw [Value.tree, Tree.value?, textOf?_unitsOf, Option.map_some]
  | array _ ih => rw [Value.tree, Tree.value?, itemValues?_itemTrees ih, Option.map_some]
  | object hnames _ ih =>
    rw [Value.tree, Tree.value?, memberValues?_memberTrees ih, Option.map_some,
      ofList_of_ascending hnames]

theorem range_of_number? {numeral : Numeral} {n : Int}
    (h : numeral.number? = some (.integer n)) :
    Int64.minValue.toInt ≤ n ∧ n < UInt64.size := by
  have hmin : Int64.minValue.toInt = -9223372036854775808 := rfl
  have hpow : Nat.pow 2 63 = 9223372036854775808 := rfl
  unfold Numeral.number? at h
  simp only at h
  split at h
  · split at h
    · split at h
      · next hrange =>
        cases h
        omega
      · split at h <;> cases h
    · split at h
      · next hrange =>
        cases h
        omega
      · split at h <;> cases h
  · split at h <;> cases h

theorem exists_tree_of_items {room : Nat} {ts : List Tree} {items : List Value}
    (h : itemValues? room ts = some items) : ∀ v ∈ items, ∃ t, Tree.value? room t = some v := by
  induction ts generalizing items with
  | nil =>
    cases h
    exact List.forall_mem_nil _
  | cons t ts ih =>
    obtain ⟨v, hv, h⟩ := Option.bind_eq_some_iff.mp h
    obtain ⟨vs, hvs, h⟩ := Option.bind_eq_some_iff.mp h
    cases h
    exact List.forall_mem_cons.mpr ⟨⟨t, hv⟩, ih hvs⟩

theorem exists_tree_of_members {room : Nat} {ms : List (List StringUnit × Tree)}
    {pairs : List (String × Value)} (h : memberValues? room ms = some pairs) :
    ∀ m ∈ pairs, ∃ t, Tree.value? room t = some m.2 := by
  induction ms generalizing pairs with
  | nil =>
    cases h
    exact List.forall_mem_nil _
  | cons m ms ih =>
    obtain ⟨us, t⟩ := m
    rw [memberValues?] at h
    obtain ⟨name, -, h⟩ := Option.bind_eq_some_iff.mp h
    obtain ⟨v, hv, h⟩ := Option.bind_eq_some_iff.mp h
    obtain ⟨vs, hvs, h⟩ := Option.bind_eq_some_iff.mp h
    cases h
    exact List.forall_mem_cons.mpr ⟨⟨t, hv⟩, ih hvs⟩

theorem Value.FloatFree.writable {v : Value} (h : v.FloatFree) {room : Nat} {t : Tree}
    (ht : Tree.value? room t = some v) : v.Writable room := by
  induction h generalizing room t with
  | null => exact .null
  | bool b => exact .bool b
  | string s => exact .string s
  | integer n =>
    cases t <;> cases room <;> simp [Tree.value?, Value.integer] at ht
    all_goals exact .integer (range_of_number? ht).1 (range_of_number? ht).2
  | array _ ih =>
    cases t <;> cases room <;> simp [Tree.value?] at ht
    exact .array fun v hv => by
      obtain ⟨t, ht⟩ := exists_tree_of_items ht v hv
      exact ih v hv ht
  | object _ ih =>
    cases t <;> cases room <;> simp [Tree.value?] at ht
    obtain ⟨pairs, hpairs, rfl⟩ := ht
    refine .object (Dict.sorted _) fun m hm => ?_
    obtain ⟨t, ht⟩ := exists_tree_of_members hpairs m (Dict.mem_ofList hm)
    exact ih m hm ht

end BlockMail.Json
