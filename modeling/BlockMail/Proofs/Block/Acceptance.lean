import BlockMail.Proofs.Json.Schema

/-! # Which payloads are accepted

The slots of the nine payloads, and of the formatting of a text.  Their readers go by these slots,
so a payload is accepted just if it fits them, and each of its fields is read from its own member.
-/

namespace BlockMail

open Json (Value Record Slot Fits GoesBy Naming ReadBySlots)

/-! ## Values of fields -/

/-- What a field of a payload is read as. -/
inductive FieldValue where
  | text (s : Option String)
  | flag (b : Bool)
  | alignment (a : Option Alignment)
  | fontSize (f : Option FontSize)
  | variant (v : Option CtaVariant)
  | style (s : Option DividerStyle)
  | height (n : Option UInt32)
  | switches (d : Dict Bool)
  | formatting (f : TextFormatting)

def IsText (v : Value) : Prop := ∃ s, v = .string s

def IsFlag (v : Value) : Prop := ∃ b, v = .bool b

/-- A whole number of 32 bits. -/
def IsHeight (v : Value) : Prop := ∃ n : Int, 0 ≤ n ∧ n < UInt32.size ∧ v = .integer n

/-- An object of truth values. -/
def IsSwitches (v : Value) : Prop := ∃ members, v = .object members ∧ ∀ m ∈ members, IsFlag m.2

theorem exists_readName_iff {β : Type} {ofName : String → β} (v : Value) :
    (∃ b, readName ofName v = some b) ↔ IsText v := by
  simp [readName, IsText, Json.readString_eq_some_iff, and_comm]

theorem exists_readString_iff (v : Value) : (∃ s, Json.readString v = some s) ↔ IsText v := by
  simp only [Json.readString_eq_some_iff, IsText]

theorem exists_readBool_iff (v : Value) : (∃ b, Json.readBool v = some b) ↔ IsFlag v := by
  cases v with
  | number n => cases n <;> simp [Json.readBool, Json.view, Value.view, IsFlag]
  | _ => simp [Json.readBool, Json.view, Value.view, IsFlag]

theorem exists_readUInt32_iff (v : Value) :
    (∃ n, Json.readUInt32 v = some n) ↔ IsHeight v := by
  cases v with
  | number n =>
    cases n with
    | integer n =>
      simp [Json.readUInt32, Json.view, Value.view, IsHeight, Value.integer, UInt32.size]
    | decimal => simp [Json.readUInt32, Json.view, Value.view, IsHeight, Value.integer]
  | _ => simp [Json.readUInt32, Json.view, Value.view, IsHeight, Value.integer]

theorem exists_readSwitches_iff (v : Value) :
    (∃ d, Json.readDict Json.readBool v = some d) ↔ IsSwitches v := by
  cases v with
  | object members =>
    have hread : Json.readDict Json.readBool (Value.object members)
        = (members.mapM fun m => (Json.readBool m.2).map fun b => (m.1, b)).map Dict.ofList := rfl
    rw [← Option.isSome_iff_exists, hread, Option.isSome_map, Json.isSome_mapM]
    simp [IsSwitches, ← exists_readBool_iff, Option.isSome_iff_exists]
  | number n => cases n <;> simp [Json.readDict, Json.view, Value.view, IsSwitches]
  | _ => simp [Json.readDict, Json.view, Value.view, IsSwitches]

/-! ## Slots -/

/-- A text that may be missing. -/
def textSlot (names : Json.Field) : Slot FieldValue :=
  .of names Json.readString .text IsText exists_readString_iff

/-- A text that is empty unless written. -/
def contentSlot (names : Json.Field) : Slot FieldValue :=
  .of names Json.readString (fun s => .text (some (s.getD ""))) IsText exists_readString_iff

def flagSlot (names : Json.Field) : Slot FieldValue :=
  .of names Json.readBool (fun b => .flag (b.getD false)) IsFlag exists_readBool_iff

/-- One of a few names; any text will do. -/
def nameSlot {β : Type} (names : Json.Field) (ofName : String → β) (wrap : Option β → FieldValue) :
    Slot FieldValue :=
  .of names (readName ofName) wrap IsText exists_readName_iff

def heightSlot (names : Json.Field) : Slot FieldValue :=
  .of names Json.readUInt32 .height IsHeight exists_readUInt32_iff

def switchesSlot (names : Json.Field) : Slot FieldValue :=
  .of names (Json.readDict Json.readBool) (fun d => .switches (d.getD ∅)) IsSwitches
    exists_readSwitches_iff

section Reading

variable {names : Json.Field} {r : Record Value} {i : Nat}

theorem textSlot_read : (textSlot names).read (r.slot? i) = (readText? r i).map .text := by
  rw [readText?, Record.optional_eq]
  rfl

theorem contentSlot_read : (contentSlot names).read (r.slot? i)
    = (r.orElse i "" Json.readString).map fun s => .text (some s) := by
  rw [Record.orElse_eq, Option.map_map]
  rfl

theorem flagSlot_read : (flagSlot names).read (r.slot? i) = (readFlag r i).map .flag := by
  rw [readFlag, Record.orElse_eq, Option.map_map]
  rfl

theorem nameSlot_read {β : Type} {ofName : String → β} {wrap : Option β → FieldValue} :
    (nameSlot names ofName wrap).read (r.slot? i)
      = (r.optional i (readName ofName)).map wrap := by
  rw [Record.optional_eq]
  rfl

theorem heightSlot_read :
    (heightSlot names).read (r.slot? i) = (r.optional i Json.readUInt32).map .height := by
  rw [Record.optional_eq]
  rfl

theorem switchesSlot_read : (switchesSlot names).read (r.slot? i)
    = (r.orElse i ∅ (Json.readDict Json.readBool)).map .switches := by
  rw [Record.orElse_eq, Option.map_map]
  rfl

end Reading

/-! ## The payloads -/

namespace TextFormatting

def slots : List (Slot FieldValue) :=
  [ nameSlot ["alignment"] Alignment.ofName .alignment, textSlot ["fontFamily"], flagSlot ["bold"],
    flagSlot ["italic"], flagSlot ["bullets"], nameSlot ["fontSize"] FontSize.ofName .fontSize ]

def values (f : TextFormatting) : List FieldValue :=
  [ .alignment f.alignment, .text f.fontFamily, .flag f.bold, .flag f.italic, .flag f.bullets,
    .fontSize f.fontSize ]

theorem goesBy : GoesBy slots (read (α := Value)) values := by
  refine .of_record (by decide) (fun _ => rfl) (fun r => ?_) ?_
  · refine .field nameSlot_read fun _ => ?_
    refine .field textSlot_read fun _ => ?_
    iterate 3 refine .field flagSlot_read fun _ => ?_
    refine .field nameSlot_read fun _ => ?_
    exact .done rfl
  · rintro ⟨⟩ ⟨⟩ h
    cases h
    rfl

end TextFormatting

/-- The formatting of a text, itself a structure. -/
def formattingSlot (names : Json.Field) : Slot FieldValue :=
  .of names TextFormatting.read (fun f => .formatting (f.getD {})) (Fits TextFormatting.slots)
    TextFormatting.goesBy.accepts_iff

theorem formattingSlot_read {names : Json.Field} {r : Record Value} {i : Nat} :
    (formattingSlot names).read (r.slot? i)
      = (r.orElse i {} TextFormatting.read).map .formatting := by
  rw [Record.orElse_eq, Option.map_map]
  rfl

namespace TextBlock

def slots : List (Slot FieldValue) :=
  [contentSlot ["content"], formattingSlot ["formatting"]]

def values (b : TextBlock) : List FieldValue :=
  [.text (some b.content), .formatting b.formatting]

theorem goesBy : GoesBy slots (read (α := Value)) values := by
  refine .of_record (by decide) (fun _ => rfl) (fun r => ?_) ?_
  · refine .field contentSlot_read fun _ => ?_
    refine .field formattingSlot_read fun _ => ?_
    exact .done rfl
  · rintro ⟨⟩ ⟨⟩ h
    cases h
    rfl

end TextBlock

namespace HeaderBlock

def slots : List (Slot FieldValue) :=
  [textSlot ["title"], textSlot ["tagline"], flagSlot ["showLogo"], textSlot ["backgroundColor"]]

def values (b : HeaderBlock) : List FieldValue :=
  [.text b.title, .text b.tagline, .flag b.showLogo, .text b.backgroundColor]

theorem goesBy : GoesBy slots (read (α := Value)) values := by
  refine .of_record (by decide) (fun _ => rfl) (fun r => ?_) ?_
  · iterate 2 refine .field textSlot_read fun _ => ?_
    refine .field flagSlot_read fun _ => ?_
    refine .field textSlot_read fun _ => ?_
    exact .done rfl
  · rintro ⟨⟩ ⟨⟩ h
    cases h
    rfl

end HeaderBlock

namespace CtaBlock

def slots : List (Slot FieldValue) :=
  [ textSlot ["text"], textSlot ["link"], textSlot ["url"],
    nameSlot ["variant"] CtaVariant.ofName .variant ]

def values (b : CtaBlock) : List FieldValue :=
  [.text b.text, .text b.link, .text b.url, .variant b.variant]

theorem goesBy : GoesBy slots (read (α := Value)) values := by
  refine .of_record (by decide) (fun _ => rfl) (fun r => ?_) ?_
  · iterate 3 refine .field textSlot_read fun _ => ?_
    refine .field nameSlot_read fun _ => ?_
    exact .done rfl
  · rintro ⟨⟩ ⟨⟩ h
    cases h
    rfl

end CtaBlock

namespace ImageBlock

def slots : List (Slot FieldValue) :=
  [ textSlot ["imageUrl"], textSlot ["src"], textSlot ["placeholderUrl"], flagSlot ["placeholder"],
    textSlot ["alt"], textSlot ["caption"] ]

def values (b : ImageBlock) : List FieldValue :=
  [ .text b.imageUrl, .text b.src, .text b.placeholderUrl, .flag b.placeholder, .text b.alt,
    .text b.caption ]

theorem goesBy : GoesBy slots (read (α := Value)) values := by
  refine .of_record (by decide) (fun _ => rfl) (fun r => ?_) ?_
  · iterate 3 refine .field textSlot_read fun _ => ?_
    refine .field flagSlot_read fun _ => ?_
    iterate 2 refine .field textSlot_read fun _ => ?_
    exact .done rfl
  · rintro ⟨⟩ ⟨⟩ h
    cases h
    rfl

end ImageBlock

namespace SessionDetailsBlock

def slots : List (Slot FieldValue) :=
  [ textSlot ["customLabel"], flagSlot ["showName"], flagSlot ["showType"],
    flagSlot ["showDuration"], flagSlot ["showStatus"], flagSlot ["showDate"],
    flagSlot ["showTime"], flagSlot ["showLocation"], flagSlot ["showMeetingLink"],
    flagSlot ["showProject"], flagSlot ["showPackage"], flagSlot ["showNotes"],
    textSlot ["customNotes"], textSlot ["meetingLabel"], textSlot ["projectLabel"],
    textSlot ["packageLabel"] ]

def values (b : SessionDetailsBlock) : List FieldValue :=
  [ .text b.customLabel, .flag b.showName, .flag b.showType, .flag b.showDuration,
    .flag b.showStatus, .flag b.showDate, .flag b.showTime, .flag b.showLocation,
    .flag b.showMeetingLink, .flag b.showProject, .flag b.showPackage, .flag b.showNotes,
    .text b.customNotes, .text b.meetingLabel, .text b.projectLabel, .text b.packageLabel ]

theorem goesBy : GoesBy slots (read (α := Value)) values := by
  refine .of_record (by decide) (fun _ => rfl) (fun r => ?_) ?_
  · refine .field textSlot_read fun _ => ?_
    iterate 11 refine .field flagSlot_read fun _ => ?_
    iterate 4 refine .field textSlot_read fun _ => ?_
    exact .done rfl
  · rintro ⟨⟩ ⟨⟩ h
    cases h
    rfl

end SessionDetailsBlock

namespace DividerBlock

def slots : List (Slot FieldValue) :=
  [nameSlot ["style"] DividerStyle.ofName .style, textSlot ["color"], heightSlot ["height"]]

def values (b : DividerBlock) : List FieldValue :=
  [.style b.style, .text b.color, .height b.height]

theorem goesBy : GoesBy slots (read (α := Value)) values := by
  refine .of_record (by decide) (fun _ => rfl) (fun r => ?_) ?_
  · refine .field nameSlot_read fun _ => ?_
    refine .field textSlot_read fun _ => ?_
    refine .field heightSlot_read fun _ => ?_
    exact .done rfl
  · rintro ⟨⟩ ⟨⟩ h
    cases h
    rfl

end DividerBlock

namespace SocialLinksBlock

def slots : List (Slot FieldValue) :=
  [switchesSlot ["channelVisibility"]]

def values (b : SocialLinksBlock) : List FieldValue :=
  [.switches b.channelVisibility]

theorem goesBy : GoesBy slots (read (α := Value)) values := by
  refine .of_record (by decide) (fun _ => rfl) (fun r => ?_) ?_
  · refine .field switchesSlot_read fun _ => ?_
    exact .done rfl
  · rintro ⟨⟩ ⟨⟩ h
    cases h
    rfl

end SocialLinksBlock

namespace FooterBlock

def slots : List (Slot FieldValue) :=
  [ flagSlot ["showLogo"], flagSlot ["showStudioName", "showBusinessName"],
    flagSlot ["showContactInfo"], textSlot ["customText"] ]

def values (b : FooterBlock) : List FieldValue :=
  [.flag b.showLogo, .flag b.showBusinessName, .flag b.showContactInfo, .text b.customText]

theorem goesBy : GoesBy slots (read (α := Value)) values := by
  refine .of_record (by decide) (fun _ => rfl) (fun r => ?_) ?_
  · iterate 3 refine .field flagSlot_read fun _ => ?_
    refine .field textSlot_read fun _ => ?_
    exact .done rfl
  · rintro ⟨⟩ ⟨⟩ h
    cases h
    rfl

end FooterBlock

namespace RawHtmlBlock

def slots : List (Slot FieldValue) :=
  [contentSlot ["html"]]

def values (b : RawHtmlBlock) : List FieldValue :=
  [.text (some b.html)]

theorem goesBy : GoesBy slots (read (α := Value)) values := by
  refine .of_record (by decide) (fun _ => rfl) (fun r => ?_) ?_
  · refine .field contentSlot_read fun _ => ?_
    exact .done rfl
  · rintro ⟨⟩ ⟨⟩ h
    cases h
    rfl

end RawHtmlBlock

/-! ## Acceptance -/

def BlockKind.values : BlockKind → List FieldValue
  | .text b => b.values
  | .header b => b.values
  | .cta b => b.values
  | .image b => b.values
  | .sessionDetails b => b.values
  | .divider b => b.values
  | .socialLinks b => b.values
  | .footer b => b.values
  | .rawHtml b => b.values

/-- The names of the types, each with the slots of its payload. -/
def schemas : List (String × List (Slot FieldValue)) :=
  [ ("text", TextBlock.slots), ("header", HeaderBlock.slots), ("cta", CtaBlock.slots),
    ("image", ImageBlock.slots), ("session-details", SessionDetailsBlock.slots),
    ("divider", DividerBlock.slots), ("social-links", SocialLinksBlock.slots),
    ("footer", FooterBlock.slots), ("raw-html", RawHtmlBlock.slots) ]

theorem exists_reader_goesBy {typeName : String} {slots : List (Slot FieldValue)}
    (h : (typeName, slots) ∈ schemas) : ∃ reader : Value → Option BlockKind,
      payloadReader? typeName = some reader ∧ GoesBy slots reader BlockKind.values := by
  simp only [schemas, List.mem_cons, Prod.mk.injEq, List.not_mem_nil, or_false] at h
  rcases h with ⟨rfl, rfl⟩ | ⟨rfl, rfl⟩ | ⟨rfl, rfl⟩ | ⟨rfl, rfl⟩ | ⟨rfl, rfl⟩ | ⟨rfl, rfl⟩
    | ⟨rfl, rfl⟩ | ⟨rfl, rfl⟩ | ⟨rfl, rfl⟩
  · exact ⟨_, rfl, TextBlock.goesBy.map fun _ => rfl⟩
  · exact ⟨_, rfl, HeaderBlock.goesBy.map fun _ => rfl⟩
  · exact ⟨_, rfl, CtaBlock.goesBy.map fun _ => rfl⟩
  · exact ⟨_, rfl, ImageBlock.goesBy.map fun _ => rfl⟩
  · exact ⟨_, rfl, SessionDetailsBlock.goesBy.map fun _ => rfl⟩
  · exact ⟨_, rfl, DividerBlock.goesBy.map fun _ => rfl⟩
  · exact ⟨_, rfl, SocialLinksBlock.goesBy.map fun _ => rfl⟩
  · exact ⟨_, rfl, FooterBlock.goesBy.map fun _ => rfl⟩
  · exact ⟨_, rfl, RawHtmlBlock.goesBy.map fun _ => rfl⟩

theorem mem_typeNames_iff {typeName : String} :
    typeName ∈ schemas.map (·.1) ↔ BlockKind.Known typeName := by
  constructor
  · intro h
    obtain ⟨⟨_, slots⟩, hmem, rfl⟩ := List.mem_map.mp h
    obtain ⟨reader, hreader, -⟩ := exists_reader_goesBy hmem
    exact known_of_reader hreader
  · rintro ⟨kind, rfl⟩
    cases kind <;> simp [schemas, BlockKind.typeName]

theorem read_eq_unknownType_iff (typeName : String) (v : Value) :
    BlockKind.read typeName v = .error .unknownType ↔ typeName ∉ schemas.map (·.1) := by
  rw [mem_typeNames_iff]
  rcases BlockKind.read_cases typeName v with ⟨hunknown, h⟩ | ⟨hknown, h⟩ | ⟨hknown, kind, h⟩
  · simp [h, hunknown]
  · simp [h, hknown]
  · simp [h, hknown]

section Payloads

variable {typeName : String} {slots : List (Slot FieldValue)} {reader : Value → Option BlockKind}
  {v : Value} {kind : BlockKind}

theorem read_eq_ok_iff (hreader : payloadReader? typeName = some reader) :
    BlockKind.read typeName v = .ok kind ↔ reader (payloadOf v) = some kind := by
  unfold BlockKind.read
  cases hkind : reader (payloadOf v) <;> simp [hreader, hkind]

theorem read_eq_malformed_iff (hreader : payloadReader? typeName = some reader) :
    BlockKind.read typeName v = .error .malformed ↔ reader (payloadOf v) = none := by
  unfold BlockKind.read
  cases hkind : reader (payloadOf v) <;> simp [hreader, hkind]

theorem fits_payloadOf_iff : Fits slots (payloadOf v) ↔ v = .null ∨ Fits slots v := by
  cases v <;> simp [payloadOf, Fits]

theorem member?_payloadOf (s : Slot FieldValue) (i : Nat) :
    s.member? i (payloadOf v) = s.member? i v := by
  cases v <;> rfl

end Payloads

/-- What is accepted for the type of a block, and what it is read as. -/
structure Accepts (typeName : String) (slots : List (Slot FieldValue)) : Prop where
  ok_iff (v : Value) : (∃ kind, BlockKind.read typeName v = .ok kind) ↔ v = .null ∨ Fits slots v
  malformed_iff (v : Value) :
    BlockKind.read typeName v = .error .malformed ↔ ¬ (v = .null ∨ Fits slots v)
  typeName_eq {v : Value} {kind : BlockKind} (h : BlockKind.read typeName v = .ok kind) :
    kind.typeName = typeName
  /-- Each field is read from its own member. -/
  fields {v : Value} {kind : BlockKind} (h : BlockKind.read typeName v = .ok kind) :
    kind.values.length = slots.length ∧ ∀ (i : Nat) (s : Slot FieldValue), slots[i]? = some s →
      kind.values[i]? = s.read (s.member? i v)
  determined {v v' : Value} {kind kind' : BlockKind} (h : BlockKind.read typeName v = .ok kind)
    (h' : BlockKind.read typeName v' = .ok kind') (hvalues : kind.values = kind'.values) :
    kind = kind'
  /-- The items of an array may be named. -/
  named {items : List Value} {names : List String} {members : List (String × Value)}
    (hlength : items.length ≤ slots.length) (hnames : Naming names slots)
    (hmembers : members.Perm (names.zip items)) :
    BlockKind.read typeName (.object members) = BlockKind.read typeName (.array items)

theorem accepts_of_goesBy {typeName : String} {slots : List (Slot FieldValue)}
    {reader : Value → Option BlockKind} (hreader : payloadReader? typeName = some reader)
    (h : GoesBy slots reader BlockKind.values) : Accepts typeName slots where
  ok_iff v := by
    simp only [read_eq_ok_iff hreader, h.accepts_iff, fits_payloadOf_iff]
  malformed_iff v := by
    rw [read_eq_malformed_iff hreader, ← fits_payloadOf_iff, ← h.accepts_iff,
      Option.eq_none_iff_forall_ne_some, not_exists]
  typeName_eq := typeName_of_read
  fields hkind := by
    have hread := (read_eq_ok_iff hreader).mp hkind
    refine ⟨h.length_values hread, fun i s hs => ?_⟩
    rw [h.values_getElem? hread hs, member?_payloadOf]
  determined hkind hkind' :=
    h.eq_of_values ((read_eq_ok_iff hreader).mp hkind) ((read_eq_ok_iff hreader).mp hkind')
  named hlength hnames hmembers := by
    simp only [BlockKind.read, hreader, payloadOf, h.read_object hlength hnames hmembers]

/-- **Acceptance of payloads.**  Only the name of the type says whether the type is known.  A
    payload of a known type is accepted if it is `null` or fits the slots of the type, and each of
    its fields is read from its own member, which may stand in an object or in an array.  The same
    holds of the formatting inside a text. -/
theorem payload_acceptance :
    (∀ typeName v, BlockKind.read typeName v = .error .unknownType ↔ typeName ∉ schemas.map (·.1))
      ∧ (∀ typeName slots, (typeName, slots) ∈ schemas → Accepts typeName slots)
      ∧ ReadBySlots TextFormatting.slots (TextFormatting.read (α := Value))
          TextFormatting.values := by
  refine ⟨read_eq_unknownType_iff, fun typeName slots h => ?_, TextFormatting.goesBy.readBySlots⟩
  obtain ⟨reader, hreader, hgoes⟩ := exists_reader_goesBy h
  exact accepts_of_goesBy hreader hgoes

theorem footer_naming :
    Naming ["showLogo", "showBusinessName", "showContactInfo", "customText"] FooterBlock.slots :=
  .cons (.head _) (.cons (.tail _ (.head _)) (.cons (.head _) (.cons (.head _) .nil)))

theorem payload_acceptance_footer :
    ("footer", FooterBlock.slots) ∈ schemas
      ∧ BlockKind.read "footer" (.object [("showBusinessName", .null), ("showLogo", .bool true)])
        = BlockKind.read "footer" (.array [.bool true, .null])
      ∧ ∃ kind, BlockKind.read "footer" (.array [.bool true, .null]) = .ok kind := by
  have hfooter : ("footer", FooterBlock.slots) ∈ schemas := by simp [schemas]
  have haccepts := payload_acceptance.2.1 "footer" FooterBlock.slots hfooter
  refine ⟨hfooter, haccepts.named (by decide) footer_naming (.swap _ _ _), ?_⟩
  exact ⟨.footer { showLogo := true }, rfl⟩

end BlockMail
