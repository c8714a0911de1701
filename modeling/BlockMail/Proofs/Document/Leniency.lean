import Mathlib
import BlockMail.Document
import BlockMail.Proofs.Render.Settled

/-! # Lenient decoding

Documents are edited by programs that write `null` where a form is empty and keep members that this
library does not know.  Neither costs anything: a field that is `null` may as well be missing, and a
member that is for no field may as well not be there, in a document and in every structure inside
it (`decoding_lenient`).

There are two limits (`decoding_limits`).  The entries of a block list are read by their values, so
all that stands in them must have a value, also where no field is concerned: a number out of range
costs the document.  And the payload of an entry is kept as it is written, empty fields and all,
though what it is read as does not depend on them.
-/

namespace BlockMail

open Json (Source Record Value Placed Tree Edited Alike RecordsAlike DictEdited Readable nowhere
  anything isNull view readNullable readDict)

variable {α : Type} [Source α] {a a' : α}

/-! ## Trees that are written without escapes -/

/-- A string written without escapes. -/
def Json.word (s : String) : List Json.StringUnit := s.toList.map .char

theorem Json.textOf?_word (s : String) : textOf? (word s) = some s := by
  have hspell : ∀ cs : List Char, spell? (cs.map .char) = some cs := by
    intro cs
    induction cs with
    | nil => rfl
    | cons c cs ih => rw [List.map_cons, spell?, ih, Option.map_some]
  rw [textOf?, word, hspell, Option.map_some, String.ofList_toList]

/-- An object whose names are written without escapes. -/
def Json.Tree.ofMembers (members : List (String × Tree)) : Tree :=
  .object (members.map fun m => (word m.1, m.2))

theorem Json.view_ofMembers (room : Nat) (members : List (String × Tree)) :
    view (⟨room + 1, .ofMembers members⟩ : Placed)
      = .object (members.map fun m => (m.1, ⟨room, m.2⟩)) true := by
  have hnamed : namedMembers room (members.map fun m => (word m.1, m.2))
      = (members.map fun m => (m.1, ⟨room, m.2⟩), true) := by
    induction members with
    | nil => rfl
    | cons m members ih =>
      rw [List.map_cons, namedMembers, textOf?_word, ih]
      rfl
  show Json.View.object _ _ = _
  rw [hnamed]

open Json (word view_ofMembers)

/-! ## Branding -/

theorem SocialChannel.read_alike (h : Alike SocialChannel.fields nowhere a a') :
    SocialChannel.read a = SocialChannel.read a' :=
  h.read_eq fun _ _ halike => by simp only [halike.optional_flat]

/-- Edits inside a branding are those of its channels. -/
inductive Branding.Inside : Nat → α → α → Prop
  | channels {b b' : α} (h : DictEdited (Edited SocialChannel.fields anything nowhere) b b') :
      Inside 5 b b'

theorem Branding.read_edited (h : Edited Branding.fields anything Branding.Inside a a') :
    Branding.read a = Branding.read a' :=
  h.alike.read_eq fun r r' halike => by
    have htext : ∀ i, i ≠ 5 → r.optional i Json.readString = r'.optional i Json.readString :=
      fun i hi => halike.optional_eq fun | _, _, .channels _ => absurd rfl hi
    have hchannels : r.optional 5 (readDict SocialChannel.read)
        = r'.optional 5 (readDict SocialChannel.read) := by
      refine halike.optional_eq fun | b, b', .channels h => ?_
      unfold readNullable
      rw [h.isNull_eq, Json.readDict_of_edited h fun _ _ hchannel =>
        SocialChannel.read_alike hchannel.alike]
    rw [htext 0 (by decide), htext 1 (by decide), htext 2 (by decide), htext 3 (by decide),
      htext 4 (by decide), hchannels]

/-! ## Documents -/

/-- Edits inside a document are those of its blocks and of its branding. -/
inductive Document.Inside (item : α → α → Prop) : Nat → α → α → Prop
  | blocks {b b' : α} (h : ListEdited item b b') : Inside item 2 b b'
  | branding {b b' : α} (h : Edited Branding.fields anything Branding.Inside b b') :
      Inside item 4 b b'

/-- A document notices no edits but those of its blocks and of its branding. -/
theorem Document.ofSource?_alike {inside : Nat → α → α → Prop}
    (h : RecordsAlike Document.fields inside a a')
    (hplain : ∀ i b b', inside i b b' → i = blocksField ∨ i = 4)
    (hblocks : ∀ b b', inside blocksField b b' →
      readNullable readBlocks b = readNullable readBlocks b')
    (hbranding : ∀ b b', inside 4 b b' →
      readNullable Branding.read b = readNullable Branding.read b') :
    Document.ofSource? a = Document.ofSource? a' :=
  h.read_eq fun r r' halike => by
    have hsubject : r.orElse 0 "" Json.readString = r'.orElse 0 "" Json.readString :=
      halike.orElse_eq fun _ _ hinside => absurd (hplain _ _ _ hinside) (by decide)
    have hpreheader : r.optional 1 Json.readString = r'.optional 1 Json.readString :=
      halike.optional_eq fun _ _ hinside => absurd (hplain _ _ _ hinside) (by decide)
    have hdata : r.orElse 3 ∅ Context.read = r'.orElse 3 ∅ Context.read :=
      halike.orElse_eq fun _ _ hinside => absurd (hplain _ _ _ hinside) (by decide)
    rw [hsubject, hpreheader, hdata, halike.optional_eq hblocks, halike.optional_eq hbranding]

theorem Document.ofSource?_edited {item : α → α → Prop}
    (hitem : ∀ b b', item b b' →
      Option.Rel BlockEntry.ReadAlike (Json.value? b) (Json.value? b'))
    (h : Edited Document.fields anything (Document.Inside item) a a') :
    Document.ofSource? a = Document.ofSource? a' := by
  refine Document.ofSource?_alike h.alike.recordsAlike ?_ ?_ ?_
  · rintro i b b' (_ | _)
    · exact .inl rfl
    · exact .inr rfl
  · rintro b b' ⟨h⟩
    unfold readNullable readBlocks
    rw [h.isNull_eq, h.readValues_rel hitem]
  · rintro b b' (_ | h)
    unfold readNullable
    rw [h.alike.isNull_eq, Branding.read_edited h]

/-! ## Dictionaries and names -/

/-- A `null` in a dictionary stays an error: its members are no fields. -/
theorem readDict_of_null {β : Type} {item : α → Option β} {ms : List (String × α)} {sound : Bool}
    (hitem : ∀ b, view b = .null → item b = none) (hview : view a = .object ms sound)
    {m : String × α} (hm : m ∈ ms) (hnull : isNull m.2 = true) : readDict item a = none :=
  Json.readDict_eq_none hview hm (hitem m.2 (Json.view_of_isNull hnull))

theorem SocialChannel.read_of_null (h : view a = .null) : SocialChannel.read a = none := by
  rw [read, Record.read?, Json.arrivals?, h]
  rfl

/-- Two payloads that are shown alike, whatever is filled in. -/
def BlockKind.ShownAlike (kind kind' : BlockKind) : Prop :=
  ∀ (c : Context) (branding : Option Branding),
    Render.fragment kind c branding = Render.fragment kind' c branding
      ∧ Render.textForm? kind c branding = Render.textForm? kind' c branding

theorem BlockKind.shownAlike_of_settled {kind kind' : BlockKind}
    (h : kind.settled = kind'.settled) : kind.ShownAlike kind' := by
  intro c branding
  rw [← Render.fragment_settled kind, ← Render.textForm?_settled kind, h, Render.fragment_settled,
    Render.textForm?_settled]
  exact ⟨rfl, rfl⟩

theorem shownAlike_of_edited {typeName : String} {reader : α → Option BlockKind}
    (hreader : payloadReader? typeName = some reader)
    (h : Edited (payloadFields typeName) anything
      (InPayload (Edited TextFormatting.fields anything InFormatting) typeName) a a') :
    Option.Rel BlockKind.ShownAlike (reader a) (reader a') := by
  have hinside : ∀ (i : Nat) (b b' : α),
      InPayload (Edited TextFormatting.fields anything InFormatting) typeName i b b' →
        InPayload (Alike TextFormatting.fields InFormatting) typeName i b b' := by
    intro i b b' hb
    unfold InPayload at hb ⊢
    split at hb
    · exact ⟨hb.1, hb.2.alike⟩
    all_goals exact hb
  exact Json.rel_imp (rel_reader hreader (h.alike.imp hinside)) fun _ _ =>
    BlockKind.shownAlike_of_settled

/-! ## Everything that is read -/

/-- What edits do not change, in all that is read from a source of a kind.  The entries of a block
    list are read by their values; what is added to them in a text has to be readable. -/
structure LenientDecoding (α : Type) [Source α] : Prop where
  formatting : ∀ a a' : α, Edited TextFormatting.fields anything nowhere a a' →
    TextFormatting.read a = TextFormatting.read a'
  payload : ∀ (typeName : String) (reader : α → Option BlockKind) (a a' : α),
    payloadReader? typeName = some reader →
    Edited (payloadFields typeName) anything
      (insidePayload (Edited TextFormatting.fields anything nowhere) typeName) a a' →
    reader a = reader a'
  channel : ∀ a a' : α, Edited SocialChannel.fields anything nowhere a a' →
    SocialChannel.read a = SocialChannel.read a'
  branding : ∀ a a' : α, Edited Branding.fields anything Branding.Inside a a' →
    Branding.read a = Branding.read a'
  /-- The payload that a block has; `null`, `{}` and none at all are the same. -/
  payloadValue : ∀ (typeName : String) (v v' : Value), PayloadEdited anything typeName v v' →
    BlockKind.read typeName v = BlockKind.read typeName v'
  entryValue : ∀ v v' : Value, Edited BlockEntry.fields anything nowhere v v' →
    BlockEntry.read v = BlockEntry.read v'
  /-- With its payload edited an entry is the same but for the value of the payload. -/
  entryValueInside : ∀ v v' : Value, BlockEntry.ItemEdited anything v v' →
    Option.Rel (BlockEntry.SameBut (DataKept (anything (α := Value))))
      (BlockEntry.read v) (BlockEntry.read v')
  entry : ∀ p p' : Placed, Edited BlockEntry.fields anything nowhere p p' →
    BlockEntry.read p = BlockEntry.read p'
  entryInside : ∀ p p' : Placed,
    Edited BlockEntry.fields anything (BlockEntry.insideEntry (PayloadEdited Readable) p) p p' →
    Option.Rel (BlockEntry.SameBut (DataKept (Readable (α := Placed))))
      (BlockEntry.read p) (BlockEntry.read p')
  /-- An entry keeps its payload as it is written. -/
  entryData : ∀ (a : α) (r : Record α) (e : BlockEntry), Record.read? BlockEntry.fields a = some r →
    BlockEntry.read a = some e → match r.slot? 3 with
      | none => e.data = .null
      | some b => Json.value? b = some e.data
  document : ∀ (s s' : String) (t t' : Tree), (Json.read s).tree? = some t →
    (Json.read s').tree? = some t' →
    Edited Document.fields anything (Document.Inside (BlockEntry.ItemEdited Readable))
      t.outermost t'.outermost →
    Document.read (Json.read s) = Document.read (Json.read s')
  documentValue : ∀ v v' : Value,
    Edited Document.fields anything (Document.Inside (BlockEntry.ItemEdited anything)) v v' →
    Document.ofSource? v = Document.ofSource? v'
  /-- The members of a dictionary are no fields: a `null` among them is an error. -/
  dictionary : ∀ (a : α) (ms : List (String × α)) (sound : Bool), view a = .object ms sound →
    ∀ m ∈ ms, isNull m.2 = true →
      Context.read a = none ∧ readDict SocialChannel.read a = none
        ∧ readDict Json.readBool a = none
  /-- A name that is not known may be replaced by `null`. -/
  names : ∀ (typeName : String) (reader : α → Option BlockKind) (a a' : α),
    payloadReader? typeName = some reader →
    Edited (payloadFields typeName) anything
      (InPayload (Edited TextFormatting.fields anything InFormatting) typeName) a a' →
    Option.Rel BlockKind.ShownAlike (reader a) (reader a')

/-- **Leniency.**  A field that is `null` may be removed and a member that is for no field may be
    added, at any depth of what is read: the result is the same, or there is none before and
    after. -/
theorem decoding_lenient : LenientDecoding α where
  formatting _ _ h := TextFormatting.read_alike h.alike
  payload _ _ _ _ hreader h :=
    reader_alike hreader (h.alike.imp fun _ _ _ hinside => insidePayload_imp hinside Edited.alike)
  channel _ _ h := SocialChannel.read_alike h.alike
  branding _ _ := Branding.read_edited
  payloadValue _ _ _ h := h.alike.read_eq
  entryValue _ _ h :=
    BlockEntry.read_alike (fun _ hnull => congrArg some (Json.isNull_iff.mp hnull)) h.alike
  entryValueInside _ _ := BlockEntry.ItemEdited.rel_read
  entry _ _ h := BlockEntry.read_alike (fun _ => Json.value?_of_isNull) h.alike
  entryInside _ _ := BlockEntry.read_of_text
  entryData _ _ _ := BlockEntry.data_of_read
  document s s' t t' ht ht' h := by
    unfold Document.read
    rw [ht, ht']
    exact Document.ofSource?_edited (fun _ _ => BlockEntry.ItemEdited.rel_value?) h
  documentValue _ _ := Document.ofSource?_edited fun _ _ h => .some h.readAlike
  dictionary a ms sound hview m hm hnull := by
    have hstring : ∀ b : α, view b = .null → Json.readString b = none := fun b hb => by
      rw [Json.readString, hb]
    have hbool : ∀ b : α, view b = .null → Json.readBool b = none := fun b hb => by
      rw [Json.readBool, hb]
    exact ⟨readDict_of_null hstring hview hm hnull,
      readDict_of_null (fun _ => SocialChannel.read_of_null) hview hm hnull,
      readDict_of_null hbool hview hm hnull⟩
  names _ _ _ _ := shownAlike_of_edited

/-! ## A form with empty fields -/

/-- What the editor of a form writes, with `null` for what is not filled in. -/
def formText : String :=
  "\x7b\"preheader\":null,\"blocks\":[\x7b\"type\":\"text\",\"data\":\x7b\"formatting\":"
    ++ "\x7b\"bold\":null\x7d\x7d\x7d],\"branding\":\x7b\"socialChannels\":\x7b\"web\":"
    ++ "\x7b\"url\":null\x7d\x7d\x7d\x7d"

def formEntry : Tree :=
  .ofMembers
    [ ("type", .string (word "text")),
      ("data", .ofMembers [("formatting", .ofMembers [("bold", .null)])]) ]

def formBranding : Tree :=
  .ofMembers [("socialChannels", .ofMembers [("web", .ofMembers [("url", .null)])])]

def formTree : Tree :=
  .ofMembers [("preheader", .null), ("blocks", .array [formEntry]), ("branding", formBranding)]

/-- The same without the empty fields, and with members that are for no field. -/
def leanText : String :=
  "\x7b\"x\":1e999,\"blocks\":[\x7b\"type\":\"text\",\"data\":\x7b\"y\":0,\"formatting\":\x7b\x7d"
    ++ "\x7d\x7d],\"branding\":\x7b\"socialChannels\":\x7b\"web\":\x7b\x7d\x7d\x7d\x7d"

def leanEntry : Tree :=
  .ofMembers
    [ ("type", .string (word "text")),
      ("data", .ofMembers
        [("y", .number ⟨false, [0], none, none⟩), ("formatting", .ofMembers [])]) ]

def leanBranding : Tree := .ofMembers [("socialChannels", .ofMembers [("web", .ofMembers [])])]

def leanTree : Tree :=
  .ofMembers
    [ ("x", .number ⟨false, [1], none, some (false, [9, 9, 9])⟩), ("blocks", .array [leanEntry]),
      ("branding", leanBranding) ]

theorem formEntry_edited :
    BlockEntry.ItemEdited Readable (⟨125, formEntry⟩ : Placed) ⟨125, leanEntry⟩ := by
  have hformatting : Edited TextFormatting.fields Readable nowhere
      (⟨123, .ofMembers [("bold", .null)]⟩ : Placed) ⟨123, .ofMembers []⟩ :=
    .object (view_ofMembers 122 _) (view_ofMembers 122 _) (by decide)
      (.remove (i := 2) (by decide) rfl .nil)
  refine .object (view_ofMembers 124 _) (view_ofMembers 124 _) (by decide) ?_
  refine .keep _ (.change (i := 3) (by decide) ⟨rfl, "text", by decide, .edited ?_⟩ .nil)
  refine .object (view_ofMembers 123 _) (view_ofMembers 123 _) (by decide) ?_
  exact .add (by decide) rfl (.change (i := 1) (by decide) ⟨rfl, rfl, hformatting⟩ .nil)

theorem formBranding_edited : Edited Branding.fields anything Branding.Inside
    (⟨126, formBranding⟩ : Placed) ⟨126, leanBranding⟩ := by
  have hchannel : Edited SocialChannel.fields anything nowhere
      (⟨124, .ofMembers [("url", .null)]⟩ : Placed) ⟨124, .ofMembers []⟩ :=
    .object (view_ofMembers 123 _) (view_ofMembers 123 _) (by decide)
      (.remove (i := 1) (by decide) rfl .nil)
  refine .object (view_ofMembers 125 _) (view_ofMembers 125 _) (by decide) ?_
  refine .change (i := 5) (by decide) (.channels ?_) .nil
  exact .members (view_ofMembers 124 _) (view_ofMembers 124 _) (.cons ⟨rfl, .inr hchannel⟩ .nil)

theorem formTree_edited : Edited Document.fields anything
    (Document.Inside (BlockEntry.ItemEdited Readable)) formTree.outermost leanTree.outermost := by
  refine .object (view_ofMembers 126 _) (view_ofMembers 126 _) (by decide) ?_
  refine .add (by decide) trivial (.remove (i := 1) (by decide) rfl ?_)
  refine .change (i := 2) (by decide) (.blocks ?_) ?_
  · exact ⟨_, _, rfl, rfl, .cons (.inr formEntry_edited) .nil⟩
  · exact .change (i := 4) (by decide) (.branding formBranding_edited) .nil

/-- The two texts are one document, and a look that is not known is shown as none is. -/
theorem decoding_lenient_form :
    Document.read (Json.read formText) = Document.read (Json.read leanText)
      ∧ Document.read (Json.read leanText)
        = some
            { blocks := [⟨"", 0, .text {}⟩],
              branding := some { socialChannels := some (.ofList [("web", {})]) } }
      ∧ Option.Rel BlockKind.ShownAlike
          ((CtaBlock.read (Value.object [("variant", .string "loud")])).map .cta)
          ((CtaBlock.read (Value.object [("variant", .null)])).map .cta) := by
  have hform : (Json.read formText).tree? = some formTree := by cbv
  have hlean : (Json.read leanText).tree? = some leanTree := by cbv
  have hlook : Edited (payloadFields "cta") anything
      (InPayload (Edited TextFormatting.fields anything InFormatting) "cta")
      (Value.object [("variant", .string "loud")]) (Value.object [("variant", .null)]) := by
    refine .object rfl rfl (by decide)
      (.change (i := 3) (by decide) ⟨rfl, "loud", rfl, ?_, rfl⟩ .nil)
    intro look
    cases look <;> decide
  refine ⟨?_, by decide +kernel, ?_⟩
  · exact (decoding_lenient (α := Value)).document _ _ _ _ hform hlean formTree_edited
  · exact (decoding_lenient (α := Value)).names "cta" _ _ _ rfl hlook

/-- A member for no field costs the document if it stands in an entry and its value cannot be
    read, and an entry keeps an empty field of its payload. -/
theorem decoding_limits :
    (Json.fieldOf? BlockEntry.fields "x" = none
      ∧ Document.read (Json.read "\x7b\"blocks\":[\x7b\"type\":\"text\"\x7d]\x7d")
        = some { blocks := [⟨"", 0, .text {}⟩] }
      ∧ Document.read (Json.read "\x7b\"blocks\":[\x7b\"type\":\"text\",\"x\":1e999\x7d]\x7d")
        = none)
    ∧ Json.fieldOf? TextBlock.fields "content" = some 0
      ∧ BlockEntry.read
          (Value.object [("type", .string "text"), ("data", .object [("content", .null)])])
        = some ⟨"", some "text", 0, .object [("content", .null)]⟩
      ∧ BlockEntry.read (Value.object [("type", .string "text"), ("data", .object [])])
        = some ⟨"", some "text", 0, .object []⟩ :=
  ⟨by decide +kernel, by decide, rfl, rfl⟩

end BlockMail
