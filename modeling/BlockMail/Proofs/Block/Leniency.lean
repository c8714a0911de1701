import BlockMail.Proofs.Block.Contribution
import BlockMail.Proofs.Json.Edits

/-! # Edits that a block does not notice

Every field of a formatting, of a payload and of an entry may be missing or `null`.  So none of them
notices the edits of `Json.Edited`: a formatting on its own, a payload also with edits inside its
formatting.  An entry keeps the value of its payload as it stands, edits and all (`DataKept`), but
the block that is made of it stays the same (`BlockEntry.SameBut.toBlock_eq`).
-/

namespace BlockMail

open Json (Source Record Field Value Placed Edited Alike RecordsAlike Readable nowhere anything
  isNull view value? readNullable)

variable {α β : Type} [Source α] {a a' : α}

/-! ## Structures with nothing inside -/

section Flat

variable {r r' : Record α}

theorem Json.Record.Alike.optional_flat (h : r.Alike nowhere r') (i : Nat) (item : α → Option β) :
    r.optional i item = r'.optional i item :=
  h.optional_eq nofun

theorem Json.Record.Alike.orElse_flat (h : r.Alike nowhere r') (i : Nat) (default : β)
    (item : α → Option β) : r.orElse i default item = r'.orElse i default item :=
  h.orElse_eq nofun

end Flat

theorem TextFormatting.read_alike (h : Alike TextFormatting.fields nowhere a a') :
    TextFormatting.read a = TextFormatting.read a' :=
  h.read_eq fun _ _ halike => by
    simp only [readText?, readFlag, halike.optional_flat, halike.orElse_flat]

theorem TextBlock.read_alike
    (h : Alike TextBlock.fields
      (fun i b b' => i = 1 ∧ Alike TextFormatting.fields nowhere b b') a a') :
    TextBlock.read a = TextBlock.read a' :=
  h.read_eq fun r r' halike => by
    have hcontent : r.orElse 0 "" Json.readString = r'.orElse 0 "" Json.readString :=
      halike.orElse_eq fun _ _ hinside => absurd hinside.1 (by decide)
    have hformatting : r.orElse 1 {} TextFormatting.read = r'.orElse 1 {} TextFormatting.read := by
      refine halike.orElse_eq fun b b' hinside => ?_
      rw [readNullable, readNullable, TextFormatting.read_alike hinside.2, hinside.2.isNull_eq]
    rw [hcontent, hformatting]

/-! ## Payloads -/

/-- The fields of the payload of a type. -/
def payloadFields : String → List Field
  | "text" => TextBlock.fields
  | "header" => HeaderBlock.fields
  | "cta" => CtaBlock.fields
  | "image" => ImageBlock.fields
  | "session-details" => SessionDetailsBlock.fields
  | "divider" => DividerBlock.fields
  | "social-links" => SocialLinksBlock.fields
  | "footer" => FooterBlock.fields
  | "raw-html" => RawHtmlBlock.fields
  | _ => []

/-- The only structure inside a payload is the formatting of a text. -/
def insidePayload (formatting : α → α → Prop) (typeName : String) (i : Nat) (b b' : α) : Prop :=
  typeName = "text" ∧ i = 1 ∧ formatting b b'

theorem reader_alike {typeName : String} {reader : α → Option BlockKind}
    (hreader : payloadReader? typeName = some reader)
    (h : Alike (payloadFields typeName)
      (insidePayload (Alike TextFormatting.fields nowhere) typeName) a a') :
    reader a = reader a' := by
  by_cases htext : typeName = "text"
  · subst htext
    cases hreader
    exact congrArg (Option.map _) (TextBlock.read_alike (h.imp fun _ _ _ hinside => hinside.2))
  · have hflat : Alike (payloadFields typeName) nowhere a a' :=
      h.imp fun _ _ _ hinside => htext hinside.1
    unfold payloadReader? at hreader
    split at hreader
    case h_1 => exact absurd rfl htext
    case h_10 => cases hreader
    all_goals
      cases hreader
      refine congrArg (Option.map _) (Alike.read_eq hflat fun r r' halike => ?_)
      simp only [readText?, readFlag, halike.optional_flat, halike.orElse_flat]

/-- A payload with nothing in it: `null` or `{}`. -/
def EmptyPayload (a : α) : Prop := isNull a = true ∨ view a = .object [] true

/-- Edits of the payload of a type: of what stands in it, or from one way to write the empty one to
    the other. -/
inductive PayloadEdited (ok : α → Prop) (typeName : String) (a a' : α) : Prop
  | empty (h : EmptyPayload a) (h' : EmptyPayload a')
  | edited (h : Edited (payloadFields typeName) ok
      (insidePayload (Edited TextFormatting.fields ok nowhere) typeName) a a')

/-- Two payloads that differ by edits only. -/
inductive PayloadAlike (typeName : String) (a a' : α) : Prop
  | empty (h : EmptyPayload a) (h' : EmptyPayload a')
  | alike (h : Alike (payloadFields typeName)
      (insidePayload (Alike TextFormatting.fields nowhere) typeName) a a')

omit [Source α] in
theorem insidePayload_imp {P Q : α → α → Prop} {typeName : String} {i : Nat} {b b' : α}
    (h : insidePayload P typeName i b b') (hPQ : P b b' → Q b b') :
    insidePayload Q typeName i b b' :=
  ⟨h.1, h.2.1, hPQ h.2.2⟩

theorem PayloadEdited.alike {ok : α → Prop} {typeName : String}
    (h : PayloadEdited ok typeName a a') : PayloadAlike typeName a a' := by
  cases h with
  | empty h h' => exact .empty h h'
  | edited h =>
    exact .alike (h.alike.imp fun _ _ _ hinside => insidePayload_imp hinside Edited.alike)

theorem emptyPayload_denotes {p : Placed} {v : Value} (h : EmptyPayload p) (hv : p.Denotes v) :
    EmptyPayload v := by
  rcases h with hnull | hview
  · exact .inl (Json.isNull_denotes hv ▸ hnull)
  · have hlayers := Json.view_agrees hv
    rw [hview] at hlayers
    generalize hw : view v = w at hlayers
    cases hlayers with
    | object hmembers =>
      cases hmembers
      exact .inr hw

theorem PayloadAlike.denotes {typeName : String} {p p' : Placed} {v v' : Value}
    (h : PayloadAlike typeName p p') (hv : p.Denotes v) (hv' : p'.Denotes v') :
    PayloadAlike typeName v v' := by
  cases h with
  | empty h h' => exact .empty (emptyPayload_denotes h hv) (emptyPayload_denotes h' hv')
  | alike h =>
    refine .alike (h.denotes hv hv' fun _ _ i b b' w w' hinside hw hw' => ?_)
    obtain ⟨htext, hfield, hformatting⟩ := hinside
    exact ⟨htext, hfield, hformatting.denotes hw hw' nofun⟩

theorem readable_of_emptyPayload {p : Placed} (h : EmptyPayload p) : Readable p := by
  rcases h with hnull | hview
  · exact Json.readable_of_isNull hnull
  · exact (Json.readable_object_iff hview).mpr nofun

theorem PayloadEdited.readable_iff {typeName : String} {p p' : Placed}
    (h : PayloadEdited Readable typeName p p') : Readable p ↔ Readable p' := by
  cases h with
  | empty h h' => exact iff_of_true (readable_of_emptyPayload h) (readable_of_emptyPayload h')
  | edited h => exact h.readable_iff fun _ _ _ hinside => hinside.2.2.readable_iff nofun

theorem eq_of_emptyPayload {v : Value} (h : EmptyPayload v) : v = .null ∨ v = .object [] := by
  rcases h with hnull | hview
  · exact .inl (Json.isNull_iff.mp hnull)
  · cases v with
    | object members =>
      cases hview
      exact .inr rfl
    | number n => cases n <;> cases hview
    | _ => cases hview

theorem read_of_emptyPayload {v : Value} (h : EmptyPayload v) (typeName : String) :
    BlockKind.read typeName v = BlockKind.read typeName (.object []) := by
  rcases eq_of_emptyPayload h with rfl | rfl <;> rfl

theorem payloadOf_of_isNull {v : Value} (h : isNull v = false) : payloadOf v = v := by
  cases v with
  | null => cases h
  | _ => rfl

/-- Two payloads that a type does not tell apart. -/
def PayloadSame (typeName : String) (v v' : Value) : Prop :=
  BlockKind.read typeName v = BlockKind.read typeName v'

theorem PayloadSame.refl (typeName : String) (v : Value) : PayloadSame typeName v v := rfl

theorem PayloadAlike.read_eq {typeName : String} {v v' : Value} (h : PayloadAlike typeName v v') :
    PayloadSame typeName v v' := by
  unfold PayloadSame
  cases h with
  | empty h h' => rw [read_of_emptyPayload h, read_of_emptyPayload h']
  | alike h =>
    unfold BlockKind.read
    split
    · rfl
    · next reader hreader =>
      have hpayload : reader (payloadOf v) = reader (payloadOf v') := by
        cases hnull : isNull v with
        | true =>
          have hnull' := h.isNull_eq.symm.trans hnull
          rw [Json.isNull_iff.mp hnull, Json.isNull_iff.mp hnull']
        | false =>
          rw [payloadOf_of_isNull hnull, payloadOf_of_isNull (h.isNull_eq ▸ hnull)]
          exact reader_alike hreader h
      rw [hpayload]

/-- The values of two payloads are one, or those of a payload before edits and after them.  They are
    read alike. -/
structure DataKept (ok : α → Prop) (typeName : String) (v v' : Value) : Prop where
  edited : v = v' ∨ ∃ b b' : α, value? b = some v ∧ value? b' = some v'
    ∧ PayloadEdited ok typeName b b'
  read_eq : PayloadSame typeName v v'

theorem DataKept.refl (ok : α → Prop) (typeName : String) (v : Value) : DataKept ok typeName v v :=
  ⟨.inl rfl, rfl⟩

theorem PayloadEdited.rel_text {typeName : String} {p p' : Placed}
    (h : PayloadEdited Readable typeName p p') :
    Option.Rel (DataKept (Readable (α := Placed)) typeName) (value? p) (value? p') :=
  Json.rel_value? h.readable_iff fun _ _ hv hv' =>
    ⟨.inr ⟨p, p', hv, hv', h⟩, (h.alike.denotes hv hv').read_eq⟩

theorem PayloadEdited.rel_value {ok : Value → Prop} {typeName : String} {v v' : Value}
    (h : PayloadEdited ok typeName v v') :
    Option.Rel (DataKept ok typeName) (value? v) (value? v') :=
  .some ⟨.inr ⟨v, v', rfl, rfl, h⟩, h.alike.read_eq⟩

/-! ## Entries -/

namespace BlockEntry

/-- The name of the type that is written in an entry. -/
def typeIn? (a : α) : Option String :=
  (Record.read? fields a).bind fun r => (r.slot? 1).bind Json.readString

/-- Edits inside an entry are those of its payload, by the type it has, or by any where none is
    written. -/
def insideEntry (payload : String → α → α → Prop) (a : α) (i : Nat) (b b' : α) : Prop :=
  i = 3 ∧ ∃ typeName, (∀ written, typeIn? a = some written → written = typeName)
    ∧ payload typeName b b'

variable {payload : String → α → α → Prop}

theorem data_rel (hnull : ∀ b : α, isNull b = true → value? b = some .null)
    {R : Value → Value → Prop} (hR : ∀ v, R v v) {r r' : Record α}
    (h : Json.SlotAlike (fun b b' => Option.Rel R (value? b) (value? b')) (r.slot? 3)
      (r'.slot? 3)) :
    Option.Rel R (readData r) (readData r') := by
  unfold readData
  generalize r.slot? 3 = o, r'.slot? 3 = o' at h ⊢
  cases h with
  | same => exact Json.rel_refl hR _
  | changed h => exact h
  | dropped h =>
    simp only [hnull _ h]
    exact .some (hR .null)

theorem read_alike (hnull : ∀ b : α, isNull b = true → value? b = some .null)
    (h : Alike fields nowhere a a') : read a = read a' :=
  h.read_eq fun r r' halike => by
    have hdata : readData r = readData r' :=
      Json.eq_of_rel (data_rel hnull (fun _ => rfl) ((halike 3).imp nofun))
    simp only [halike.optional_flat, halike.orElse_flat, hdata]

theorem typeIn?_of_record {r : Record α} {typeName : String}
    (hr : Record.read? fields a = some r)
    (h : r.optional 1 Json.readString = some (some typeName)) : typeIn? a = some typeName := by
  rcases Record.optional_eq_some h with ⟨b, s, hslot, hs, heq⟩ | ⟨-, heq⟩
  · cases heq
    rw [typeIn?, hr, Option.bind_some, hslot, Option.bind_some, hs]
  · cases heq

/-- The entries are the same but for payloads, which are `alike` for the type the entries have, or
    for any where none is written. -/
structure SameBut (alike : String → Value → Value → Prop) (e e' : BlockEntry) : Prop where
  id : e.id = e'.id
  typeName : e.typeName = e'.typeName
  order : e.order = e'.order
  data : ∃ typeName, (∀ written, e.typeName = some written → written = typeName)
    ∧ alike typeName e.data e'.data

section SameBut

variable {alike : String → Value → Value → Prop} {e e' : BlockEntry}

theorem exists_alike (halike : ∀ typeName v, alike typeName v v) (o : Option String) (v : Value) :
    ∃ typeName, (∀ written, o = some written → written = typeName) ∧ alike typeName v v :=
  ⟨o.getD "", fun _ hwritten => by rw [hwritten]; rfl, halike _ _⟩

theorem SameBut.refl (halike : ∀ typeName v, alike typeName v v) (e : BlockEntry) :
    SameBut alike e e :=
  ⟨rfl, rfl, rfl, exists_alike halike _ _⟩

theorem SameBut.toBlock_eq (h : SameBut PayloadSame e e') : e.toBlock = e'.toBlock := by
  obtain ⟨typeName, hname, hdata⟩ := h.data
  unfold toBlock
  rw [h.typeName, h.id, h.order]
  split
  · rfl
  · next written hwritten =>
    rw [PayloadSame, ← hname written (h.typeName.trans hwritten)] at hdata
    rw [hdata]

end SameBut

/-- Entries that differ by edits, also in their payloads, are the same but for these. -/
theorem read_rel (hnull : ∀ b : α, isNull b = true → value? b = some .null)
    {alike : String → Value → Value → Prop} (halike : ∀ typeName v, alike typeName v v)
    (hpayload : ∀ typeName b b', payload typeName b b' →
      Option.Rel (alike typeName) (value? b) (value? b'))
    (h : RecordsAlike fields (insideEntry payload a) a a') :
    Option.Rel (SameBut alike) (read a) (read a') := by
  unfold RecordsAlike at h
  unfold read
  generalize hr : Record.read? fields a = o, Record.read? fields a' = o' at h ⊢
  cases h with
  | none => exact .none
  | @some r r' hrecords =>
    have hid : r.orElse 0 "" Json.readString = r'.orElse 0 "" Json.readString :=
      hrecords.orElse_eq fun _ _ hinside => absurd hinside.1 (by decide)
    have htype : r.optional 1 Json.readString = r'.optional 1 Json.readString :=
      hrecords.optional_eq fun _ _ hinside => absurd hinside.1 (by decide)
    have horder : r.orElse 2 0 Json.readInt64 = r'.orElse 2 0 Json.readInt64 :=
      hrecords.orElse_eq fun _ _ hinside => absurd hinside.1 (by decide)
    have hdata : Option.Rel (fun v v' => ∃ typeName,
        (∀ written, typeIn? a = some written → written = typeName) ∧ alike typeName v v')
        (readData r) (readData r') := by
      refine data_rel hnull (exists_alike halike _) ((hrecords 3).imp fun b b' hinside => ?_)
      obtain ⟨-, typeName, hname, hedited⟩ := hinside
      exact Json.rel_imp (hpayload typeName b b' hedited) fun _ _ hv => ⟨typeName, hname, hv⟩
    show Option.Rel _ (Option.bind _ _) (Option.bind _ _)
    rw [Option.bind_some, Option.bind_some, hid, htype, horder]
    refine Json.rel_bind_same fun id => ?_
    cases hname : r'.optional 1 Json.readString with
    | none => exact .none
    | some typeName =>
      show Option.Rel (SameBut alike) (Option.bind (r'.orElse 2 0 Json.readInt64) _)
        (Option.bind _ _)
      refine Json.rel_bind_same fun order => Json.rel_bind hdata fun v v' hv => .some ?_
      obtain ⟨typeName, hall, hv⟩ := hv
      refine ⟨rfl, rfl, rfl, typeName, fun written hwritten => hall written ?_, hv⟩
      exact typeIn?_of_record hr (htype.trans (hname.trans (congrArg some hwritten)))

theorem read_of_text {p p' : Placed}
    (h : Edited fields anything (insideEntry (PayloadEdited Readable) p) p p') :
    Option.Rel (SameBut (DataKept (Readable (α := Placed)))) (read p) (read p') :=
  read_rel (fun _ => Json.value?_of_isNull) (DataKept.refl _) (fun _ _ _ => PayloadEdited.rel_text)
    h.alike.recordsAlike

theorem data_of_read {r : Record α} {e : BlockEntry} (hr : Record.read? fields a = some r)
    (he : read a = some e) : match r.slot? 3 with
      | none => e.data = .null
      | some b => value? b = some e.data := by
  have hdata : readData r = some e.data := by
    unfold read at he
    simp only [hr, Option.bind_eq_bind, Option.bind_some, Option.bind_eq_some_iff] at he
    obtain ⟨_, -, _, -, _, -, data, hdata, heq⟩ := he
    cases heq
    exact hdata
  unfold readData at hdata
  split
  · next hslot => simpa [hslot] using hdata.symm
  · next b hslot => simpa [hslot] using hdata

/-- Two values that are read as entries which are the same but for payloads, or are no entries. -/
def ReadAlike (v v' : Value) : Prop := Option.Rel (SameBut PayloadSame) (read v) (read v')

theorem ReadAlike.refl (v : Value) : ReadAlike v v :=
  Json.rel_refl (SameBut.refl PayloadSame.refl) _

theorem value?_of_isNull {v : Value} (h : isNull v = true) : value? v = some .null :=
  congrArg some (Json.isNull_iff.mp h)

theorem read_of_value {v v' : Value} (h : RecordsAlike fields (insideEntry PayloadSame v) v v') :
    ReadAlike v v' :=
  read_rel (fun _ => value?_of_isNull) PayloadSame.refl (fun _ _ _ hpayload => .some hpayload) h

theorem insideEntry_imp {P Q : String → α → α → Prop} {i : Nat} {b b' : α}
    (h : insideEntry P a i b b') (hPQ : ∀ typeName, P typeName b b' → Q typeName b b') :
    insideEntry Q a i b b' := by
  obtain ⟨hfield, typeName, hname, hpayload⟩ := h
  exact ⟨hfield, typeName, hname, hPQ typeName hpayload⟩

theorem typeIn?_denotes {p : Placed} {v : Value} {r : Record Placed} (hv : p.Denotes v)
    (hr : Record.read? fields p = some r) : typeIn? p = typeIn? v := by
  obtain ⟨s, hs, hagree⟩ := Record.read?_denotes hv hr
  have hfield := hagree 1
  rw [typeIn?, typeIn?, hr, hs, Option.bind_some, Option.bind_some]
  generalize r.slot? 1 = o, s.slot? 1 = o' at hfield
  cases hfield with
  | none => rfl
  | some hdenotes => exact Json.readString_denotes hdenotes

/-- Edits of an entry, also of its payload. -/
def ItemEdited (ok : α → Prop) (a a' : α) : Prop :=
  Edited fields ok (insideEntry (PayloadEdited ok) a) a a'

theorem ItemEdited.rel_read {ok : Value → Prop} {v v' : Value} (h : ItemEdited ok v v') :
    Option.Rel (SameBut (DataKept ok)) (read v) (read v') :=
  read_rel (fun _ => value?_of_isNull) (DataKept.refl _) (fun _ _ _ => PayloadEdited.rel_value)
    h.alike.recordsAlike

theorem ItemEdited.readAlike {ok : Value → Prop} {v v' : Value} (h : ItemEdited ok v v') :
    ReadAlike v v' :=
  read_of_value (h.alike.recordsAlike.imp fun _ _ _ hinside =>
    insideEntry_imp hinside fun _ hpayload => hpayload.alike.read_eq)

/-- A block list in a text is read by the values of its items, so what is added must be readable, in
    the entries too. -/
theorem ItemEdited.rel_value? {p p' : Placed} (h : ItemEdited Readable p p') :
    Option.Rel ReadAlike (value? p) (value? p') := by
  have hreadable := h.readable_iff fun _ _ _ ⟨_, _, _, hpayload⟩ => hpayload.readable_iff
  refine Json.rel_value? hreadable fun v v' hv hv' => read_of_value (Alike.recordsAlike ?_)
  refine h.alike.denotes hv hv' fun r hr i b b' w w' hinside hw hw' => ?_
  obtain ⟨hfield, typeName, hname, hpayload⟩ := hinside
  exact ⟨hfield, typeName, typeIn?_denotes hv hr ▸ hname,
    (hpayload.alike.denotes hw hw').read_eq⟩

end BlockEntry

theorem Block.ofValues_eq {vs vs' : List Value}
    (h : List.Forall₂ BlockEntry.ReadAlike vs vs') : Block.ofValues vs = Block.ofValues vs' := by
  induction h with
  | nil => rfl
  | @cons v v' vs vs' hv _ ih =>
    have hblock : Block.ofValues [v] = Block.ofValues [v'] := by
      unfold Block.ofValues Block.ofEntries
      rw [List.filterMap_cons, List.filterMap_cons]
      unfold BlockEntry.ReadAlike at hv
      generalize BlockEntry.read v = o, BlockEntry.read v' = o' at hv
      cases hv with
      | none => rfl
      | some hsame => simp only [List.filterMap_cons, hsame.toBlock_eq]
    show Block.ofValues ([v] ++ vs) = Block.ofValues ([v'] ++ vs')
    rw [ofValues_append, ofValues_append, hblock, ih]

/-- Edits inside the items of a block list. -/
def ListEdited (item : α → α → Prop) (a a' : α) : Prop :=
  ∃ items items', view a = .array items ∧ view a' = .array items'
    ∧ List.Forall₂ (fun b b' => b = b' ∨ item b b') items items'

theorem rel_mapM {γ : Type} {R : γ → γ → Prop} {item : β → Option γ} {bs bs' : List β}
    (h : List.Forall₂ (fun b b' => Option.Rel R (item b) (item b')) bs bs') :
    Option.Rel (List.Forall₂ R) (bs.mapM item) (bs'.mapM item) := by
  induction h with
  | nil => exact .some .nil
  | cons hb _ ih =>
    rw [List.mapM_cons, List.mapM_cons]
    refine Json.rel_bind hb fun c c' hc => Json.rel_bind ih fun cs cs' hcs => ?_
    exact .some (.cons hc hcs)

theorem ListEdited.isNull_eq {item : α → α → Prop} (h : ListEdited item a a') :
    isNull a = isNull a' := by
  obtain ⟨items, items', hview, hview', -⟩ := h
  unfold isNull
  rw [hview, hview']

theorem readValues_of_array {items : List α} (hview : view a = .array items) :
    readValues a = items.mapM value? := by
  unfold readValues isNull Json.readItems
  rw [hview]
  rfl

theorem readValues_rel {items items' : List α} (hview : view a = .array items)
    (hview' : view a' = .array items')
    (h : List.Forall₂ (fun b b' => Option.Rel BlockEntry.ReadAlike (value? b) (value? b'))
      items items') :
    (readValues a).map Block.ofValues = (readValues a').map Block.ofValues := by
  have hvalues := rel_mapM h
  rw [readValues_of_array hview, readValues_of_array hview']
  generalize items.mapM value? = o, items'.mapM value? = o' at hvalues ⊢
  cases hvalues with
  | none => rfl
  | some hvs => exact congrArg some (Block.ofValues_eq hvs)

theorem ListEdited.readValues_rel {item : α → α → Prop} (h : ListEdited item a a')
    (hitem : ∀ b b', item b b' → Option.Rel BlockEntry.ReadAlike (value? b) (value? b')) :
    (readValues a).map Block.ofValues = (readValues a').map Block.ofValues := by
  obtain ⟨items, items', hview, hview', hitems⟩ := h
  refine BlockMail.readValues_rel hview hview' (hitems.imp fun b b' hb => ?_)
  rcases hb with rfl | hb
  · exact Json.rel_refl BlockEntry.ReadAlike.refl _
  · exact hitem b b' hb

end BlockMail
