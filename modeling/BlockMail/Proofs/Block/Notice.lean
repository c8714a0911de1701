import BlockMail.Proofs.Block.Contribution
import BlockMail.Proofs.Json.Denotation

/-! # What becomes of an entry

Every value of a block list has one fate: it makes a block, or there is a notice that says why it
does not.  `Fate` lists the fates by what is wrong with the value; each value has the fate that is
its `verdict` (`fate_verdict`), and no other (`Fate.eq_verdict`).  A list is gone through twice, for
values that are no entries and then for entries that make no block, so the notices are those of the
fates in another order.
-/

namespace BlockMail

open Json (Value Record Field Missing Apart)

/-! ## Values that are entries -/

namespace Json

variable {β : Type} {fields : List Field}

/-- A structure can be read from the value: no field comes twice, nor are there too many items. -/
def HasForm (fields : List Field) : Value → Prop
  | .object members => members.Pairwise fun m n => Apart fields m.1 n.1
  | .array items => items.length ≤ fields.length
  | _ => False

theorem exists_record_iff {v : Value} :
    (∃ r, Record.read? fields v = some r) ↔ HasForm fields v := by
  cases v with
  | object members =>
    exact ⟨fun ⟨_, hr⟩ => Record.apart_of_read? rfl hr, Record.exists_read?_of_apart rfl⟩
  | array items =>
    rw [Record.read?_of_array rfl, HasForm]
    by_cases h : items.length ≤ fields.length <;> simp [h]
  | number n => cases n <;> simp [Record.read?, arrivals?, view, Value.view, HasForm]
  | _ => simp [Record.read?, arrivals?, view, Value.view, HasForm]

@[simp] theorem readString_string (s : String) : readString (Value.string s) = some s := rfl

@[simp] theorem readString_null : readString Value.null = none := rfl

@[simp] theorem readInt64_null : readInt64 Value.null = none := rfl

theorem Record.optional_eq_some_iff {r : Record Value} {i : Nat} {item : Value → Option β}
    {o : Option β} (hnull : item .null = none) :
    r.optional i item = some o
      ↔ (∀ v ∈ r.slot? i, v = .null ∨ ∃ b, item v = some b) ∧ o = (r.slot? i).bind item := by
  unfold Record.optional readNullable
  cases r.slot? i with
  | none => simp [eq_comm]
  | some v =>
    cases hv : isNull v with
    | true =>
      obtain rfl := isNull_iff.mp hv
      simp [hv, hnull, eq_comm (a := o)]
    | false =>
      have hne : v ≠ .null := fun heq => by simp [isNull_iff.mpr heq] at hv
      cases hb : item v <;> simp [hv, hne, hb, eq_comm (a := o)]

theorem Record.orElse_eq_some_iff {r : Record Value} {i : Nat} {item : Value → Option β}
    {default b : β} (hnull : item .null = none) :
    r.orElse i default item = some b ↔ (∀ v ∈ r.slot? i, v = .null ∨ ∃ b, item v = some b)
      ∧ b = ((r.slot? i).bind item).getD default := by
  simp [Record.orElse, Option.map_eq_some_iff, Record.optional_eq_some_iff hnull, eq_comm (a := b)]

end Json

/-- A value that can be an entry: its id and its type are texts and its order is a whole number,
    where they are given. -/
structure IsEntry (v : Value) : Prop where
  form : Json.HasForm BlockEntry.fields v
  id : ∀ w ∈ v.field? "id" 0, w = .null ∨ ∃ s, w = .string s
  type : ∀ w ∈ v.field? "type" 1, w = .null ∨ ∃ s, w = .string s
  order : ∀ w ∈ v.field? "order" 2, w = .null ∨ ∃ n : Int64, w = .integer n.toInt

theorem IsEntry.type_cases {v : Value} (h : IsEntry v) :
    Missing (v.field? "type" 1) ∨ ∃ typeName, v.field? "type" 1 = some (.string typeName) := by
  have htype := h.type
  cases hfield : v.field? "type" 1 with
  | none => exact .inl (.inl rfl)
  | some w =>
    rcases htype w hfield with rfl | ⟨typeName, rfl⟩
    · exact .inl (.inr rfl)
    · exact .inr ⟨typeName, rfl⟩

namespace BlockEntry

/-- The id that is written in a value. -/
def idIn (v : Value) : String := ((v.field? "id" 0).bind Json.readString).getD ""

/-- The payload that is written in a value. -/
def payloadIn (v : Value) : Value := (v.field? "data" 3).getD .null

/-- The entry that is written in a value. -/
def writtenIn (v : Value) : BlockEntry where
  id := idIn v
  typeName := (v.field? "type" 1).bind Json.readString
  order := ((v.field? "order" 2).bind Json.readInt64).getD 0
  data := payloadIn v

theorem exists_readString_iff {v : Value} :
    (∃ s, Json.readString v = some s) ↔ ∃ s, v = .string s := by
  simp only [Json.readString_eq_some_iff]

theorem exists_readInt64_iff {v : Value} :
    (∃ n, Json.readInt64 v = some n) ↔ ∃ n : Int64, v = .integer n.toInt := by
  constructor
  · rintro ⟨n, hn⟩
    exact ⟨n, Json.readInt64_eq_some hn⟩
  · rintro ⟨n, rfl⟩
    exact ⟨n, Json.readInt64_toInt n⟩

theorem readData_eq (r : Record Value) : readData r = some ((r.slot? 3).getD .null) := by
  unfold readData
  cases r.slot? 3 <;> rfl

theorem read_eq_some_iff {v : Value} {e : BlockEntry} :
    read v = some e ↔ IsEntry v ∧ e = writtenIn v := by
  constructor
  · intro h
    obtain ⟨r, hr, h⟩ := Option.bind_eq_some_iff.mp h
    obtain ⟨id, hid, h⟩ := Option.bind_eq_some_iff.mp h
    obtain ⟨typeName?, htype, h⟩ := Option.bind_eq_some_iff.mp h
    obtain ⟨order, horder, h⟩ := Option.bind_eq_some_iff.mp h
    obtain ⟨data, hdata, h⟩ := Option.bind_eq_some_iff.mp h
    obtain ⟨hslot0, hslot1, hslot2, hslot3⟩ := slots_of_entry hr
    rw [Record.orElse_eq_some_iff rfl, hslot0] at hid
    rw [Record.optional_eq_some_iff rfl, hslot1] at htype
    rw [Record.orElse_eq_some_iff rfl, hslot2] at horder
    rw [readData_eq, hslot3] at hdata
    simp only [exists_readString_iff, exists_readInt64_iff] at hid htype horder
    refine ⟨⟨Json.exists_record_iff.mp ⟨r, hr⟩, hid.1, htype.1, horder.1⟩, ?_⟩
    cases h
    rw [hid.2, htype.2, horder.2, ← Option.some.inj hdata]
    rfl
  · rintro ⟨hentry, rfl⟩
    obtain ⟨r, hr⟩ := Json.exists_record_iff.mpr hentry.form
    obtain ⟨hslot0, hslot1, hslot2, hslot3⟩ := slots_of_entry hr
    have hid : r.orElse 0 "" Json.readString = some (idIn v) := by
      rw [Record.orElse_eq_some_iff rfl, hslot0]
      exact ⟨by simpa only [exists_readString_iff] using hentry.id, rfl⟩
    have htype : r.optional 1 Json.readString = some (writtenIn v).typeName := by
      rw [Record.optional_eq_some_iff rfl, hslot1]
      exact ⟨by simpa only [exists_readString_iff] using hentry.type, rfl⟩
    have horder : r.orElse 2 0 Json.readInt64 = some (writtenIn v).order := by
      rw [Record.orElse_eq_some_iff rfl, hslot2]
      exact ⟨by simpa only [exists_readInt64_iff] using hentry.order, rfl⟩
    have hdata : readData r = some (payloadIn v) := by
      rw [readData_eq, hslot3]
      rfl
    simp [read, hr, hid, htype, horder, hdata, writtenIn]

theorem read_eq_none_iff {v : Value} : read v = none ↔ ¬ IsEntry v := by
  simp [Option.eq_none_iff_forall_ne_some, read_eq_some_iff]

end BlockEntry

/-! ## Fates -/

/-- A type that blocks can have. -/
def BlockKind.Known (typeName : String) : Prop := ∃ kind : BlockKind, kind.typeName = typeName

theorem known_of_reader {typeName : String} {reader : Value → Option BlockKind}
    (h : payloadReader? typeName = some reader) : BlockKind.Known typeName := by
  unfold payloadReader? at h
  split at h
  case h_10 => cases h
  all_goals
    cases h
    exact ⟨_, typeName_of_reader (v := .object []) rfl rfl⟩

theorem exists_reader_of_known {typeName : String} (h : BlockKind.Known typeName) :
    ∃ reader : Value → Option BlockKind, payloadReader? typeName = some reader := by
  obtain ⟨kind, rfl⟩ := h
  cases kind <;> exact ⟨_, rfl⟩

open BlockEntry (idIn payloadIn writtenIn)

/-- What can become of a value at a position of a block list, with what is wrong with it. -/
inductive Fate (index : Nat) (v : Value) : Except Notice Block → Prop
  | kept {b : Block} (hentry : IsEntry v) (hgiven : b.GivenBy v) : Fate index v (.ok b)
  | undecodable (hentry : ¬ IsEntry v) : Fate index v (.error (.undecodable index))
  | untyped (hentry : IsEntry v) (htype : Missing (v.field? "type" 1)) :
      Fate index v (.error (.untyped (idIn v)))
  | unknownType {typeName : String} (hentry : IsEntry v)
      (htype : v.field? "type" 1 = some (.string typeName))
      (hunknown : ¬ BlockKind.Known typeName) :
      Fate index v (.error (.unknownType (idIn v) typeName))
  | malformed {typeName : String} (hentry : IsEntry v)
      (htype : v.field? "type" 1 = some (.string typeName))
      (hknown : BlockKind.Known typeName)
      (hpayload : ∀ kind, BlockKind.read typeName (payloadIn v) ≠ .ok kind) :
      Fate index v (.error (.malformed (idIn v) typeName))

/-- What becomes of a value. -/
def verdict (index : Nat) (v : Value) : Except Notice Block :=
  match BlockEntry.read v with
  | none => .error (.undecodable index)
  | some e => e.toBlock

theorem BlockKind.read_cases (typeName : String) (payload : Value) :
    (¬ Known typeName ∧ read typeName payload = .error .unknownType)
      ∨ (Known typeName ∧ read typeName payload = .error .malformed)
      ∨ Known typeName ∧ ∃ kind, read typeName payload = .ok kind := by
  unfold read
  cases hreader : payloadReader? (α := Value) typeName with
  | none =>
    refine .inl ⟨fun hknown => ?_, rfl⟩
    obtain ⟨reader, h⟩ := exists_reader_of_known hknown
    cases hreader.symm.trans h
  | some reader =>
    have hknown := known_of_reader hreader
    cases hkind : reader (payloadOf payload) with
    | none => exact .inr (.inl ⟨hknown, by simp [hkind]⟩)
    | some kind => exact .inr (.inr ⟨hknown, kind, by simp [hkind]⟩)

section Verdicts

variable {index : Nat} {v : Value} {typeName : String}

theorem toBlock_of_missing (htype : Missing (v.field? "type" 1)) :
    (writtenIn v).toBlock = .error (.untyped (idIn v)) := by
  have hnone : (writtenIn v).typeName = none := by
    rcases htype with hfield | hfield <;> simp [writtenIn, hfield]
  simp only [BlockEntry.toBlock, hnone]
  rfl

theorem toBlock_of_type (htype : v.field? "type" 1 = some (.string typeName)) :
    (writtenIn v).toBlock = match BlockKind.read typeName (payloadIn v) with
      | .ok kind => .ok ⟨idIn v, (writtenIn v).order, kind⟩
      | .error .unknownType => .error (.unknownType (idIn v) typeName)
      | .error .malformed => .error (.malformed (idIn v) typeName) := by
  have hname : (writtenIn v).typeName = some typeName := by
    simp [writtenIn, htype]
  simp only [BlockEntry.toBlock, hname]
  rfl

theorem verdict_of_isEntry (index : Nat) (h : IsEntry v) :
    verdict index v = (writtenIn v).toBlock := by
  rw [verdict, BlockEntry.read_eq_some_iff.mpr ⟨h, rfl⟩]

theorem fate_verdict (index : Nat) (v : Value) : Fate index v (verdict index v) := by
  by_cases hentry : IsEntry v
  · rw [verdict_of_isEntry index hentry]
    -- the questions in the order in which the decoder asks them: entry, type, payload
    rcases hentry.type_cases with hmissing | ⟨typeName, htype⟩
    · rw [toBlock_of_missing hmissing]
      exact .untyped hentry hmissing
    · have hblock := toBlock_of_type htype
      rcases BlockKind.read_cases typeName (payloadIn v) with
        ⟨hunknown, hkind⟩ | ⟨hknown, hkind⟩ | ⟨-, kind, hkind⟩
      · rw [hblock, hkind]
        exact .unknownType hentry htype hunknown
      · rw [hblock, hkind]
        exact .malformed hentry htype hknown (by simp [hkind])
      · rw [hkind] at hblock
        rw [hblock]
        exact .kept hentry
          (Block.givenBy_of_read (BlockEntry.read_eq_some_iff.mpr ⟨hentry, rfl⟩) hblock)
  · rw [verdict, BlockEntry.read_eq_none_iff.mpr hentry]
    exact .undecodable hentry

theorem Block.GivenBy.idIn_eq {b : Block} (h : b.GivenBy v) : idIn v = b.id := by
  rcases h.id with hid | ⟨hid | hid, hempty⟩
  · simp [idIn, hid]
  · simp [idIn, hid, hempty]
  · simp [idIn, hid, hempty]

theorem Block.GivenBy.order_eq {b : Block} (h : b.GivenBy v) : (writtenIn v).order = b.order := by
  rcases h.order with horder | ⟨horder | horder, hzero⟩
  · simp [writtenIn, horder, Json.readInt64_toInt]
  · simp [writtenIn, horder, hzero]
  · simp [writtenIn, horder, hzero]

/-- A value has no other fate than its verdict. -/
theorem Fate.eq_verdict {r : Except Notice Block} (h : Fate index v r) : r = verdict index v := by
  cases h with
  | kept hentry hgiven =>
    rw [verdict_of_isEntry index hentry, toBlock_of_type hgiven.type]
    have hpayload := hgiven.payload
    simp only [payloadIn, hpayload, hgiven.idIn_eq, hgiven.order_eq]
  | undecodable hentry => rw [verdict, BlockEntry.read_eq_none_iff.mpr hentry]
  | untyped hentry htype => rw [verdict_of_isEntry index hentry, toBlock_of_missing htype]
  | @unknownType typeName hentry htype hunknown =>
    rw [verdict_of_isEntry index hentry, toBlock_of_type htype]
    rcases BlockKind.read_cases typeName (payloadIn v) with ⟨-, hkind⟩ | ⟨hknown, -⟩ | ⟨hknown, -⟩
    · rw [hkind]
    · exact absurd hknown hunknown
    · exact absurd hknown hunknown
  | @malformed typeName hentry htype hknown hpayload =>
    rw [verdict_of_isEntry index hentry, toBlock_of_type htype]
    rcases BlockKind.read_cases typeName (payloadIn v) with
      ⟨hunknown, -⟩ | ⟨-, hkind⟩ | ⟨-, kind, hkind⟩
    · exact absurd hknown hunknown
    · rw [hkind]
    · exact absurd hkind (hpayload kind)

end Verdicts

/-! ## Lists -/

/-- The notice of a fate. -/
def noticeOf? : Except Notice Block → Option Notice
  | .ok _ => none
  | .error notice => some notice

/-- A notice that a value is no entry. -/
def Notice.isUndecodable : Notice → Bool
  | .undecodable _ => true
  | _ => false

/-- What becomes of the values of a list, in order. -/
def verdicts (values : List Value) : List (Except Notice Block) :=
  values.zipIdx.map fun x => verdict x.2 x.1

theorem isUndecodable_of_toBlock {e : BlockEntry} {n : Notice} (h : e.toBlock = .error n) :
    n.isUndecodable = false := by
  unfold BlockEntry.toBlock at h
  split at h
  · cases h
    rfl
  · split at h <;> cases h <;> rfl

/-- What a verdict adds to the blocks, to the notices about values that are no entries and to
    those about entries. -/
theorem verdict_adds (index : Nat) (v : Value) :
    (verdict index v).toOption = (BlockEntry.read v).bind (fun e => e.toBlock.toOption)
      ∧ (noticeOf? (verdict index v)).filter Notice.isUndecodable
        = (if (BlockEntry.read v).isNone then some (.undecodable index) else none)
      ∧ (noticeOf? (verdict index v)).filter (fun n => !n.isUndecodable)
        = (BlockEntry.read v).bind BlockEntry.notice? := by
  unfold verdict
  cases BlockEntry.read v with
  | none => exact ⟨rfl, rfl, rfl⟩
  | some e =>
    cases hblock : e.toBlock with
    | ok b => simp [hblock, noticeOf?, BlockEntry.notice?]
    | error n =>
      have hn := isUndecodable_of_toBlock hblock
      simp [hblock, noticeOf?, BlockEntry.notice?, Option.filter, hn]

theorem filterMap_zipIdx_fst {α β : Type} (f : α → Option β) (xs : List α) :
    xs.zipIdx.filterMap (fun x => f x.1) = xs.filterMap f := by
  have hmap := List.filterMap_map (f := Prod.fst) (g := f) (l := xs.zipIdx)
  rw [List.zipIdx_map_fst] at hmap
  exact hmap.symm

theorem ofValues_eq_verdicts (values : List Value) :
    Block.ofValues values = (verdicts values).filterMap Except.toOption := by
  simp only [Block.ofValues, Block.ofEntries, verdicts, List.filterMap_filterMap,
    List.filterMap_map, Function.comp_def, (verdict_adds _ _).1]
  exact (filterMap_zipIdx_fst _ values).symm

theorem noticesOf_eq_verdicts (values : List Value) :
    noticesOf values = ((verdicts values).filterMap noticeOf?).filter Notice.isUndecodable
      ++ ((verdicts values).filterMap noticeOf?).filter fun n => !n.isUndecodable := by
  simp only [noticesOf, verdicts, List.filterMap_map, List.filter_filterMap,
    List.filterMap_filterMap, Function.comp_def, (verdict_adds _ _).2]
  rw [filterMap_zipIdx_fst fun v => (BlockEntry.read v).bind BlockEntry.notice?]

theorem length_notices_add_length_blocks (fates : List (Except Notice Block)) :
    (fates.filterMap noticeOf?).length + (fates.filterMap Except.toOption).length
      = fates.length := by
  induction fates with
  | nil => rfl
  | cons fate fates ih =>
    cases fate with
    | ok b =>
      have hnotice : noticeOf? (.ok b) = none := rfl
      have hblock : (Except.ok b : Except Notice Block).toOption = some b := rfl
      simp only [List.filterMap_cons, hnotice, hblock, List.length_cons]
      omega
    | error n =>
      have hnotice : noticeOf? (.error n) = some n := rfl
      have hblock : (Except.error n : Except Notice Block).toOption = none := rfl
      simp only [List.filterMap_cons, hnotice, hblock, List.length_cons]
      omega

/-- The blocks and the notices of a list account for its values: each has a fate, and no other, and
    the blocks and the notices are those of the fates. -/
structure Accounted (values : List Value) (fates : List (Except Notice Block))
    (said : List Notice) (made : List Block) : Prop where
  length : fates.length = values.length
  fate : ∀ i v, values[i]? = some v →
    ∃ r, fates[i]? = some r ∧ Fate i v r ∧ ∀ r', Fate i v r' → r' = r
  blocks : made = fates.filterMap Except.toOption
  /-- The notices about values that are no entries come first. -/
  notices : said = (fates.filterMap noticeOf?).filter Notice.isUndecodable
    ++ (fates.filterMap noticeOf?).filter fun n => !n.isUndecodable
  ascending : ∃ positions : List Nat, positions.Pairwise (· < ·)
    ∧ (fates.filterMap noticeOf?).filter Notice.isUndecodable = positions.map .undecodable
  count : said.length + made.length = values.length

theorem accounted (values : List Value) :
    Accounted values (verdicts values) (noticesOf values) (Block.ofValues values) where
  length := by simp [verdicts]
  fate i v hv := by
    refine ⟨verdict i v, ?_, fate_verdict i v, fun r' => Fate.eq_verdict⟩
    simp [verdicts, List.getElem?_zipIdx, hv]
  blocks := ofValues_eq_verdicts values
  notices := noticesOf_eq_verdicts values
  ascending := by
    refine ⟨(values.zipIdx.filter fun x => (BlockEntry.read x.1).isNone).map Prod.snd, ?_, ?_⟩
    · have hpositions : values.zipIdx.map Prod.snd = List.range' 0 values.length :=
        List.zipIdx_map_snd 0 values
      refine List.Pairwise.sublist (List.filter_sublist.map Prod.snd) ?_
      rw [hpositions]
      exact List.pairwise_lt_range'
    · simp only [verdicts, List.filterMap_map, List.filter_filterMap, Function.comp_def,
        (verdict_adds _ _).2.1, List.map_map]
      rw [← List.filterMap_eq_map, List.filterMap_filter]
      simp
  count := by
    have hcount := length_notices_add_length_blocks (verdicts values)
    have hsplit := List.length_eq_length_filter_add (l := (verdicts values).filterMap noticeOf?)
      Notice.isUndecodable
    have hlength : (verdicts values).length = values.length := by simp [verdicts]
    rw [noticesOf_eq_verdicts, ofValues_eq_verdicts, List.length_append]
    omega

end BlockMail
