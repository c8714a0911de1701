import BlockMail.Proofs.Block.Contribution
import BlockMail.Proofs.Block.Decoding
import BlockMail.Proofs.Document.Leniency
import BlockMail.Proofs.Json.Written

/-! # What is written is read back

A branding, an entry of a block list and a data context are read back as they were, from the value
that is written for them and from the text of that value: `round_trips`.  Only the payload of an
entry may be more than a text can hold.
-/

namespace BlockMail

open Json (Source Value Placed Tree Record Writes asItself asTree decode? view value?
  isNull readNullable readDict readString readInt64)

section Writes

variable {α : Type} [Source α] {write : Nat → Value → α}

theorem SocialChannel.read_write (h : Writes write) (room : Nat) (c : SocialChannel) :
    read (write (room + 1) c.toJson) = some c := by
  have hslots : Record.read? fields (write (room + 1) c.toJson)
      = some ⟨[ (0, write room (.ofText? c.name)), (1, write room (.ofText? c.url)),
        (2, write room (.ofInt64? c.order)) ]⟩ := by
    rw [toJson, Record.read?_of_object (h.object _ _)]
    rfl
  unfold read
  simp [hslots, Record.optional, Record.slot?, h.readText?, h.readInt64?]

/-- The channels of a branding as they are written. -/
def Branding.channelsJson (channels : Option (Dict SocialChannel)) : Value :=
  match channels with
  | none => .null
  | some channels => .object (channels.entries.map fun e => (e.1, e.2.toJson))

theorem Branding.readChannels_write (h : Writes write) (room : Nat)
    (channels : Option (Dict SocialChannel)) :
    readNullable (readDict SocialChannel.read) (write (room + 2) (channelsJson channels))
      = some channels := by
  cases channels with
  | none => simp [readNullable, isNull, channelsJson, h.null]
  | some channels =>
    have hread := h.readDict (SocialChannel.read_write h room) (List.Perm.refl channels.entries)
    rw [readNullable, channelsJson, hread]
    simp [isNull, h.object]

theorem Branding.read_write (h : Writes write) (room : Nat) (b : Branding) :
    read (write (room + 3) b.toJson) = some b := by
  have hslots : Record.read? fields (write (room + 3) b.toJson)
      = some ⟨[ (0, write (room + 2) (.ofText? b.businessName)),
        (1, write (room + 2) (.ofText? b.brandColor)), (2, write (room + 2) (.ofText? b.logoUrl)),
        (3, write (room + 2) (.ofText? b.phone)), (4, write (room + 2) (.ofText? b.email)),
        (5, write (room + 2) (channelsJson b.socialChannels)) ]⟩ := by
    rw [toJson, Record.read?_of_object (h.object _ _)]
    rfl
  unfold read
  simp [hslots, Record.optional, Record.slot?, h.readText?, readChannels_write h]

theorem Context.read_write (h : Writes write) (room : Nat) {c : Context}
    {entries : List (String × String)} (hperm : entries.Perm c.entries) :
    read (write (room + 1) (.object (entries.map fun e => (e.1, .string e.2)))) = some c :=
  h.readDict (h.readString room) hperm

end Writes

theorem Branding.read_toJson (b : Branding) : read b.toJson = some b :=
  read_write Json.writes_asItself 0 b

theorem Context.read_toJson (c : Context) : read c.toJson = some c :=
  read_write Json.writes_asItself 0 (List.Perm.refl c.entries)

/-! ## Texts -/

theorem Json.room_of_mem_namedMembers {room : Nat} {members : List (List Json.StringUnit × Tree)} :
    ∀ m ∈ (Json.namedMembers room members).1, m.2.room = room := by
  induction members with
  | nil => exact List.forall_mem_nil _
  | cons m members ih =>
    obtain ⟨us, t⟩ := m
    rw [Json.namedMembers]
    split
    · exact List.forall_mem_nil _
    · exact List.forall_mem_cons.mpr ⟨rfl, ih⟩

theorem Json.Record.room_of_slot? {fields : List Json.Field} {room : Nat} {t : Tree}
    {r : Record Placed} (hr : Record.read? fields (⟨room + 1, t⟩ : Placed) = some r) {i : Nat}
    {p : Placed} (hp : r.slot? i = some p) : p.room = room := by
  cases t with
  | object members =>
    rw [slot?_of_object rfl hr] at hp
    obtain ⟨m, hm, rfl⟩ := Option.map_eq_some_iff.mp hp
    exact room_of_mem_namedMembers m (List.mem_of_find?_eq_some hm)
  | array items =>
    rw [slot?_of_array rfl hr] at hp
    split at hp
    · obtain ⟨t, -, rfl⟩ := List.mem_map.mp (List.mem_of_getElem? hp)
      rfl
    · cases hp
  | null => cases hr
  | bool b => cases hr
  | number n =>
    simp only [read?, arrivals?, view, Placed.view] at hr
    cases hn : n.number? with
    | none => simp [hn] at hr
    | some k => cases k <;> simp [hn] at hr
  | string us =>
    simp only [read?, arrivals?, view, Placed.view] at hr
    cases hus : Json.textOf? us <;> simp [hus] at hr

theorem BlockEntry.decode_toText {e : BlockEntry} (h : e.data.Writable (Json.nestingLimit - 1)) :
    decode? read e.toJson.toText = some e := by
  rw [decode?, Json.read_toText]
  exact read_write Json.writes_asTree 126 e h.value?_tree

theorem BlockEntry.writable_data {text : String} {e : BlockEntry} (h : decode? read text = some e)
    (hfree : e.data.FloatFree) : e.data.Writable (Json.nestingLimit - 1) := by
  obtain ⟨t, -, h⟩ := Option.bind_eq_some_iff.mp h
  obtain ⟨r, hr, h⟩ := Option.bind_eq_some_iff.mp h
  obtain ⟨id, -, h⟩ := Option.bind_eq_some_iff.mp h
  obtain ⟨typeName?, -, h⟩ := Option.bind_eq_some_iff.mp h
  obtain ⟨order, -, h⟩ := Option.bind_eq_some_iff.mp h
  obtain ⟨data, hdata, h⟩ := Option.bind_eq_some_iff.mp h
  cases h
  unfold readData at hdata
  split at hdata
  · cases hdata
    exact .null
  · next p hp =>
    have hroom : p.room = Json.nestingLimit - 1 := Record.room_of_slot? hr hp
    rw [← hroom]
    exact hfree.writable hdata

/-! ## Both ways -/

/-- What is written for a branding, an entry and a data context is read back as it was, … -/
structure RoundTrips : Prop where
  branding : ∀ b : Branding, Branding.read b.toJson = some b
  entry : ∀ e : BlockEntry, BlockEntry.read e.toJson = some e
  context : ∀ c : Context, Context.read c.toJson = some c
  /-- … also from its text, … -/
  brandingText : ∀ b : Branding, decode? Branding.read b.toJson.toText = some b
  entryText : ∀ e : BlockEntry, e.data.Writable (Json.nestingLimit - 1) →
    decode? BlockEntry.read e.toJson.toText = some e
  /-- … a context in any order of its keys. -/
  contextText : ∀ (c : Context) (entries : List (String × String)), entries.Perm c.entries →
    decode? Context.read (Value.object (entries.map fun e => (e.1, .string e.2))).toText = some c
  /-- So from whatever something was read, it is what is read and written from then on. -/
  brandingAgain : ∀ {α : Type} [Source α] (a : α) (b : Branding), Branding.read a = some b →
    Branding.read b.toJson = some b ∧ (Branding.read b.toJson).map Branding.toJson = some b.toJson
  entryAgain : ∀ {α : Type} [Source α] (a : α) (e : BlockEntry), BlockEntry.read a = some e →
    BlockEntry.read e.toJson = some e
      ∧ (BlockEntry.read e.toJson).map BlockEntry.toJson = some e.toJson
  contextAgain : ∀ {α : Type} [Source α] (a : α) (c : Context), Context.read a = some c →
    Context.read c.toJson = some c ∧ (Context.read c.toJson).map Context.toJson = some c.toJson
  /-- An entry of a text without decimals in its payload can be written as a text again. -/
  entryTextAgain : ∀ (text : String) (e : BlockEntry), decode? BlockEntry.read text = some e →
    e.data.FloatFree → decode? BlockEntry.read e.toJson.toText = some e

/-- **Reading undoes writing.** -/
theorem round_trips : RoundTrips where
  branding := Branding.read_toJson
  entry := BlockEntry.read_toJson
  context := Context.read_toJson
  brandingText b := by
    rw [decode?, Json.read_toText]
    exact Branding.read_write Json.writes_asTree 124 b
  entryText _ := BlockEntry.decode_toText
  contextText c entries hperm := by
    rw [decode?, Json.read_toText]
    exact Context.read_write Json.writes_asTree 126 hperm
  brandingAgain _ b _ := ⟨b.read_toJson, congrArg _ b.read_toJson⟩
  entryAgain _ e _ := ⟨e.read_toJson, congrArg _ e.read_toJson⟩
  contextAgain _ c _ := ⟨c.read_toJson, congrArg _ c.read_toJson⟩
  entryTextAgain _ _ h hfree := BlockEntry.decode_toText (BlockEntry.writable_data h hfree)

/-! ## Texts by other names -/

/-- A branding by the names of the settings, with a channel without the names of its fields. -/
def settingsText : String :=
  "\x7b\"business_name\":\"Lens\",\"page\":1,"
    ++ "\"social_channels\":\x7b\"web\":[null,\"u\"]\x7d\x7d"

def settingsTree : Tree :=
  .ofMembers
    [ ("business_name", .string (Json.word "Lens")), ("page", .number ⟨false, [1], none, none⟩),
      ("social_channels", .ofMembers [("web", .array [.null, .string (Json.word "u")])]) ]

def settingsBranding : Branding :=
  { businessName := some "Lens", socialChannels := some (.ofList [("web", { url := some "u" })]) }

/-- An entry without the names of its fields, with neither id nor order. -/
def bareText : String := "[null,\"text\",null,\x7b\"b\":[1,null],\"a\":\"x\"\x7d]"

def bareEntry : BlockEntry :=
  { typeName := some "text",
    data := .object [("a", .string "x"), ("b", .array [.integer 1, .null])] }

theorem bareEntry_floatFree : bareEntry.data.FloatFree := by
  have hlist : (Value.array [.integer 1, .null]).FloatFree := by
    refine .array (List.forall_mem_cons.mpr ⟨.integer 1, ?_⟩)
    exact List.forall_mem_singleton.mpr .null
  refine .object (List.forall_mem_cons.mpr ⟨.string "x", ?_⟩)
  exact List.forall_mem_singleton.mpr hlist

/-- What is read by other names, or by none, is written by its own. -/
theorem round_trips_renamed :
    decode? Branding.read settingsText = some settingsBranding
      ∧ settingsBranding.toJson.toText
        = "\x7b\"businessName\":\"Lens\",\"brandColor\":null,\"logoUrl\":null,\"phone\":null,"
          ++ "\"email\":null,\"socialChannels\":\x7b\"web\":\x7b\"name\":null,\"url\":\"u\","
          ++ "\"order\":null\x7d\x7d\x7d"
      ∧ decode? Branding.read settingsBranding.toJson.toText = some settingsBranding
      ∧ decode? BlockEntry.read bareText = some bareEntry
      ∧ bareEntry.toJson.toText = "\x7b\"id\":\"\",\"type\":\"text\",\"order\":0,"
          ++ "\"data\":\x7b\"a\":\"x\",\"b\":[1,null]\x7d\x7d"
      ∧ decode? BlockEntry.read bareEntry.toJson.toText = some bareEntry := by
  have htree : (Json.read settingsText).tree? = some settingsTree := by cbv
  have hbranding : decode? Branding.read settingsText = some settingsBranding := by
    rw [decode?, htree]
    decide +kernel
  have hentry : decode? BlockEntry.read bareText = some bareEntry := by cbv
  refine ⟨hbranding, by cbv, round_trips.brandingText settingsBranding, hentry, by cbv, ?_⟩
  exact round_trips.entryTextAgain bareText bareEntry hentry bareEntry_floatFree

end BlockMail
