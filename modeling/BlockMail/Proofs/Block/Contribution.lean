import BlockMail.Block.Entry
import BlockMail.Proofs.Json.Layers
import BlockMail.Proofs.Json.Record

/-! # What an entry contributes

The blocks of a list are what its values contribute one by one: none or one block each, which
has the id, the order and the type that the value gives it.
-/

namespace BlockMail

open Json (Value Record Field)

/-! ## The fields of an entry -/

namespace Json

/-- What a value has for a field, in an object by name and in an array by position. -/
def Value.field? (name : String) (position : Nat) : Value → Option Value
  | .object members => (members.find? (·.1 == name)).map (·.2)
  | .array items => items[position]?
  | _ => none

/-- Nothing or `null` is written for the field. -/
def Missing (field? : Option Value) : Prop := field? = none ∨ field? = some .null

theorem Record.slot?_eq_field? {fields : List Field} {i : Nat} {v : Value} {r : Record Value}
    {name : String} (h : Record.read? fields v = some r)
    (hname : ∀ n, fieldOf? fields n = some i ↔ n = name) (hi : i < fields.length) :
    r.slot? i = v.field? name i := by
  cases v with
  | object members =>
    have hmember : (fun m : String × Value => fieldOf? fields m.1 == some i)
        = fun m => m.1 == name := by
      funext m
      rw [Bool.eq_iff_iff, beq_iff_eq, beq_iff_eq, hname]
    rw [Record.slot?_of_object rfl h, hmember, Value.field?]
  | array items => rw [Record.slot?_of_array rfl h, if_pos hi, Value.field?]
  | number n => cases n <;> cases h
  | _ => cases h

theorem isNull_iff {v : Value} : isNull v = true ↔ v = .null := by
  cases v with
  | number n => cases n <;> simp [isNull, view, Value.view]
  | _ => simp [isNull, view, Value.view]

theorem readString_eq_some_iff {v : Value} {s : String} :
    readString v = some s ↔ v = .string s := by
  cases v with
  | number n => cases n <;> simp [readString, view, Value.view]
  | _ => simp [readString, view, Value.view]

theorem readInt64_eq_some {v : Value} {n : Int64} (h : readInt64 v = some n) :
    v = .integer n.toInt := by
  cases v with
  | number m =>
    cases m with
    | integer m =>
      simp only [readInt64, view, Value.view] at h
      split at h
      · next hrange =>
        cases h
        have hmax : Int64.maxValue.toInt = 2 ^ 63 - 1 := rfl
        rw [Int64.toInt_ofInt_of_le hrange.1 (by omega)]
        rfl
      · cases h
    | decimal => cases h
  | _ => cases h

theorem Record.optional_eq_some {α β : Type} [Source α] {r : Record α} {i : Nat}
    {item : α → Option β} {o : Option β} (h : r.optional i item = some o) :
    (∃ a b, r.slot? i = some a ∧ item a = some b ∧ o = some b)
      ∨ (∀ a ∈ r.slot? i, isNull a = true) ∧ o = none := by
  unfold Record.optional readNullable at h
  cases hslot : r.slot? i with
  | none =>
    rw [hslot] at h
    cases h
    exact .inr ⟨nofun, rfl⟩
  | some a =>
    simp only [hslot] at h
    by_cases hnull : isNull a = true
    · rw [if_pos hnull] at h
      cases h
      exact .inr ⟨fun a' ha => Option.some.inj ha ▸ hnull, rfl⟩
    · rw [if_neg hnull] at h
      obtain ⟨b, hb, rfl⟩ := Option.map_eq_some_iff.mp h
      exact .inl ⟨a, b, rfl, hb, rfl⟩

theorem Record.orElse_eq_some {α β : Type} [Source α] {r : Record α} {i : Nat} {default b : β}
    {item : α → Option β} (h : r.orElse i default item = some b) :
    (∃ a, r.slot? i = some a ∧ item a = some b)
      ∨ (∀ a ∈ r.slot? i, isNull a = true) ∧ b = default := by
  obtain ⟨o, ho, rfl⟩ := Option.map_eq_some_iff.mp h
  rcases Record.optional_eq_some ho with ⟨a, b, hslot, hb, rfl⟩ | ⟨hnull, rfl⟩
  · exact .inl ⟨a, hslot, hb⟩
  · exact .inr ⟨hnull, rfl⟩

theorem missing_of_isNull {field? : Option Value} (h : ∀ v ∈ field?, isNull v = true) :
    Missing field? := by
  cases field? with
  | none => exact .inl rfl
  | some v => exact .inr (congrArg some (isNull_iff.mp (h v rfl)))

end Json

/-! ## Blocks -/

theorem typeName_of_reader {typeName : String} {v : Value} {reader : Value → Option BlockKind}
    {kind : BlockKind} (hreader : payloadReader? typeName = some reader)
    (h : reader v = some kind) : kind.typeName = typeName := by
  unfold payloadReader? at hreader
  split at hreader
  case h_10 => cases hreader
  all_goals
    cases hreader
    obtain ⟨payload, -, rfl⟩ := Option.map_eq_some_iff.mp h
    rfl

theorem typeName_of_read {typeName : String} {payload : Value} {kind : BlockKind}
    (h : BlockKind.read typeName payload = .ok kind) : kind.typeName = typeName := by
  unfold BlockKind.read at h
  split at h
  · cases h
  · next reader hreader =>
    split at h
    · cases h
    · next kind hkind =>
      cases h
      exact typeName_of_reader hreader hkind

/-- The block is what the value gives: its id and its order, the defaults where they are not
    given, and the payload of its type. -/
structure Block.GivenBy (b : Block) (v : Value) : Prop where
  id : v.field? "id" 0 = some (.string b.id) ∨ (Json.Missing (v.field? "id" 0) ∧ b.id = "")
  type : v.field? "type" 1 = some (.string b.kind.typeName)
  order : v.field? "order" 2 = some (.integer b.order.toInt)
    ∨ (Json.Missing (v.field? "order" 2) ∧ b.order = 0)
  payload : BlockKind.read b.kind.typeName ((v.field? "data" 3).getD .null) = .ok b.kind

theorem fieldOf?_entry (name : String) : Json.fieldOf? BlockEntry.fields name
    = if name = "id" then some 0 else if name = "type" then some 1
      else if name = "order" then some 2 else if name = "data" then some 3 else none := by
  unfold Json.fieldOf? BlockEntry.fields
  simp only [List.findIdx?_cons, List.findIdx?_nil, List.contains_cons, List.contains_nil,
    Bool.or_false, beq_iff_eq]
  repeat' split
  all_goals simp_all

theorem slots_of_entry {v : Value} {r : Record Value}
    (h : Record.read? BlockEntry.fields v = some r) :
    r.slot? 0 = v.field? "id" 0 ∧ r.slot? 1 = v.field? "type" 1
      ∧ r.slot? 2 = v.field? "order" 2 ∧ r.slot? 3 = v.field? "data" 3 := by
  refine ⟨?_, ?_, ?_, ?_⟩
  all_goals
    refine Json.Record.slot?_eq_field? h (fun n => ?_) (by decide)
    rw [fieldOf?_entry]
    repeat' split
    all_goals simp_all

theorem Block.givenBy_of_read {v : Value} {e : BlockEntry} {b : Block}
    (hread : BlockEntry.read v = some e) (hblock : e.toBlock = .ok b) : b.GivenBy v := by
  obtain ⟨r, hr, hread⟩ := Option.bind_eq_some_iff.mp hread
  obtain ⟨id, hid, hread⟩ := Option.bind_eq_some_iff.mp hread
  obtain ⟨typeName?, htype, hread⟩ := Option.bind_eq_some_iff.mp hread
  obtain ⟨order, horder, hread⟩ := Option.bind_eq_some_iff.mp hread
  obtain ⟨data, hdata, hread⟩ := Option.bind_eq_some_iff.mp hread
  cases hread
  obtain ⟨hslot0, hslot1, hslot2, hslot3⟩ := slots_of_entry hr
  cases typeName? with
  | none => cases hblock
  | some typeName =>
    obtain ⟨kind, hkind, hb⟩ : ∃ kind, BlockKind.read typeName data = .ok kind
        ∧ b = ⟨id, order, kind⟩ := by
      simp only [BlockEntry.toBlock] at hblock
      split at hblock <;> cases hblock
      exact ⟨_, ‹_›, rfl⟩
    subst hb
    have hname : kind.typeName = typeName := typeName_of_read hkind
    refine ⟨?_, ?_, ?_, ?_⟩
    · rcases Record.orElse_eq_some hid with ⟨a, ha, hs⟩ | ⟨hnull, rfl⟩
      · left
        rw [← hslot0, ha, Json.readString_eq_some_iff.mp hs]
      · exact .inr ⟨hslot0 ▸ Json.missing_of_isNull hnull, rfl⟩
    · rcases Record.optional_eq_some htype with ⟨a, s, ha, hs, heq⟩ | ⟨-, hnone⟩
      · cases heq
        rw [← hslot1, ha, Json.readString_eq_some_iff.mp hs, hname]
      · cases hnone
    · rcases Record.orElse_eq_some horder with ⟨a, ha, hn⟩ | ⟨hnull, rfl⟩
      · left
        rw [← hslot2, ha, Json.readInt64_eq_some hn]
      · exact .inr ⟨hslot2 ▸ Json.missing_of_isNull hnull, rfl⟩
    · have hpayload : data = (v.field? "data" 3).getD .null := by
        unfold BlockEntry.readData at hdata
        rw [hslot3] at hdata
        split at hdata <;> next hfield => rw [hfield, ← Option.some.inj hdata]; rfl
      rw [← hpayload, hname]
      exact hkind

/-! ## Entries as they are written -/

theorem Json.readInt64_toInt (n : Int64) : Json.readInt64 (Value.integer n.toInt) = some n :=
  Json.writes_asItself.readInt64 0 n

theorem BlockEntry.read_write {α : Type} [Json.Source α] {write : Nat → Value → α}
    (h : Json.Writes write) (room : Nat) (e : BlockEntry)
    (hdata : Json.value? (write room e.data) = some e.data) :
    read (write (room + 1) e.toJson) = some e := by
  have hslots : Record.read? fields (write (room + 1) e.toJson)
      = some ⟨[ (0, write room (.string e.id)), (1, write room (.ofText? e.typeName)),
        (2, write room (.integer e.order.toInt)), (3, write room e.data) ]⟩ := by
    rw [toJson, Record.read?_of_object (h.object _ _)]
    rfl
  have hid : Json.readNullable Json.readString (write room (.string e.id)) = some (some e.id) :=
    h.readText? room (some e.id)
  have horder : Json.readNullable Json.readInt64 (write room (.integer e.order.toInt))
      = some (some e.order) := h.readInt64? room (some e.order)
  unfold read
  simp [hslots, Record.orElse, Record.optional, Record.slot?, hid, h.readText?, horder, readData,
    hdata]

theorem BlockEntry.read_toJson (e : BlockEntry) : BlockEntry.read e.toJson = some e :=
  read_write Json.writes_asItself 0 e rfl

/-! ## Lists -/

namespace Block

theorem ofValues_append (vs ws : List Value) :
    ofValues (vs ++ ws) = ofValues vs ++ ofValues ws := by
  unfold ofValues ofEntries
  rw [List.filterMap_append, List.filterMap_append]

theorem ofValues_eq_flatMap (values : List Value) :
    ofValues values = values.flatMap fun v => ofValues [v] := by
  induction values with
  | nil => rfl
  | cons v values ih =>
    rw [List.flatMap_cons, ← ih]
    exact ofValues_append [v] values

theorem ofValues_singleton (v : Value) :
    ofValues [v] = [] ∨ ∃ b, ofValues [v] = [b] ∧ b.GivenBy v := by
  unfold ofValues ofEntries
  cases hread : BlockEntry.read v with
  | none => simp [hread]
  | some e =>
    cases hblock : e.toBlock with
    | error notice => simp [hread, hblock, Except.toOption]
    | ok b =>
      right
      refine ⟨b, ?_, givenBy_of_read hread hblock⟩
      simp [hread, hblock, Except.toOption]

theorem ofValues_toJson (e : BlockEntry) : ofValues [e.toJson] = e.toBlock.toOption.toList := by
  unfold ofValues ofEntries
  cases hblock : e.toBlock <;> simp [BlockEntry.read_toJson, hblock, Except.toOption]

end Block

end BlockMail
