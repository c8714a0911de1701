import BlockMail.Proofs.Block.Leniency
import BlockMail.Render.Message

/-! # Names that are not known

Alignments, font sizes, looks of calls to action and styles of dividers are written by name.  A name
that is not known stands for the default, which is also what is shown where there is no name.
`BlockKind.settled` has the default written out, and a block is shown as its settled form is
(`Render.fragment_settled`).  So a name that is not known may as well be `null`.
-/

namespace BlockMail

open Json (Source Record Alike isNull view readNullable)

variable {α : Type} [Source α] {a a' : α}

/-! ## Defaults written out -/

def TextFormatting.settled (f : TextFormatting) : TextFormatting :=
  { f with
    alignment := some (f.alignment.getD .left)
    fontSize := some (f.fontSize.getD .p) }

/-- The payload with a name for everything that is chosen by name. -/
def BlockKind.settled : BlockKind → BlockKind
  | .text b => .text { b with formatting := b.formatting.settled }
  | .cta b => .cta { b with variant := some (b.variant.getD .primary) }
  | .divider b => .divider { b with style := some (b.style.getD .space) }
  | kind => kind

theorem Render.fragment_settled (kind : BlockKind) (c : Context) (branding : Option Branding) :
    fragment kind.settled c branding = fragment kind c branding := by
  cases kind <;> rfl

theorem Render.textForm?_settled (kind : BlockKind) (c : Context) (branding : Option Branding) :
    textForm? kind.settled c branding = textForm? kind c branding := by
  cases kind <;> rfl

/-! ## Names -/

/-- A text that is the name of nothing, and `null` in its place. -/
def Forgotten {κ : Type} (name : κ → String) (b b' : α) : Prop :=
  ∃ s, view b = .string s ∧ (∀ k, name k ≠ s) ∧ isNull b' = true

theorem Alignment.ofName_unknown {s : String} (h : ∀ k : Alignment, k.name ≠ s) :
    Alignment.ofName s = .left := by
  unfold ofName
  split
  · exact absurd rfl (h .center)
  · exact absurd rfl (h .right)
  · rfl

theorem FontSize.ofName_unknown {s : String} (h : ∀ k : FontSize, k.name ≠ s) :
    FontSize.ofName s = .p := by
  unfold ofName
  split
  · exact absurd rfl (h .h1)
  · exact absurd rfl (h .h2)
  · exact absurd rfl (h .h3)
  · rfl

theorem CtaVariant.ofName_unknown {s : String} (h : ∀ k : CtaVariant, k.name ≠ s) :
    CtaVariant.ofName s = .primary := by
  unfold ofName
  split
  · exact absurd rfl (h .secondary)
  · exact absurd rfl (h .text)
  · rfl

theorem DividerStyle.ofName_unknown {s : String} (h : ∀ k : DividerStyle, k.name ≠ s) :
    DividerStyle.ofName s = .space := by
  unfold ofName
  split
  · exact absurd rfl (h .line)
  · rfl

section Names

variable {κ : Type} {name : κ → String} {ofName : String → κ} {default : κ}

/-- A name that is not known and `null` settle to the same. -/
theorem rel_forgotten (hunknown : ∀ {s}, (∀ k, name k ≠ s) → ofName s = default)
    (h : Forgotten name a a') :
    Option.Rel (fun o o' => o.getD default = o'.getD default) (readNullable (readName ofName) a)
      (readNullable (readName ofName) a') := by
  obtain ⟨s, hview, hs, hnull⟩ := h
  have hfirst : readNullable (readName ofName) a = some (some (ofName s)) := by
    simp [readNullable, readName, isNull, Json.readString, hview]
  have hsecond : readNullable (readName ofName) a' = some none := by
    rw [readNullable, if_pos hnull]
  rw [hfirst, hsecond]
  exact .some (hunknown hs)

theorem Json.Record.Alike.rel_name {inside : Nat → α → α → Prop} {r r' : Record α} {i : Nat}
    (h : r.Alike inside r') (hunknown : ∀ {s}, (∀ k, name k ≠ s) → ofName s = default)
    (hinside : ∀ b b', inside i b b' → Forgotten name b b') :
    Option.Rel (fun o o' => o.getD default = o'.getD default) (r.optional i (readName ofName))
      (r'.optional i (readName ofName)) :=
  h.rel_optional (fun _ => rfl) fun b b' hb => rel_forgotten hunknown (hinside b b' hb)

end Names

/-! ## Payloads -/

/-- Names that are forgotten inside a formatting. -/
inductive InFormatting : Nat → α → α → Prop
  | alignment {b b' : α} (h : Forgotten Alignment.name b b') : InFormatting 0 b b'
  | fontSize {b b' : α} (h : Forgotten FontSize.name b b') : InFormatting 5 b b'

/-- Names that are forgotten inside the payload of a type. -/
def InPayload (formatting : α → α → Prop) (typeName : String) (i : Nat) (b b' : α) : Prop :=
  match typeName with
  | "text" => i = 1 ∧ formatting b b'
  | "cta" => i = 3 ∧ Forgotten CtaVariant.name b b'
  | "divider" => i = 0 ∧ Forgotten DividerStyle.name b b'
  | _ => False

theorem TextFormatting.rel_read (h : Alike TextFormatting.fields InFormatting a a') :
    Option.Rel (fun f f' : TextFormatting => f.settled = f'.settled) (TextFormatting.read a)
      (TextFormatting.read a') := by
  refine h.rel_read fun r r' halike => ?_
  have halignment := halike.rel_name Alignment.ofName_unknown (i := 0) fun
    | _, _, .alignment h => h
  have hsize := halike.rel_name FontSize.ofName_unknown (i := 5) fun
    | _, _, .fontSize h => h
  have hfamily : readText? r 1 = readText? r' 1 := halike.optional_eq nofun
  have hbold : readFlag r 2 = readFlag r' 2 := halike.orElse_eq nofun
  have hitalic : readFlag r 3 = readFlag r' 3 := halike.orElse_eq nofun
  have hbullets : readFlag r 4 = readFlag r' 4 := halike.orElse_eq nofun
  rw [hfamily, hbold, hitalic, hbullets]
  refine Json.rel_bind halignment fun al al' hal => ?_
  refine Json.rel_bind_same fun family => Json.rel_bind_same fun bold => ?_
  refine Json.rel_bind_same fun italic => Json.rel_bind_same fun bullets => ?_
  refine Json.rel_bind hsize fun size size' hsize => .some ?_
  simp only [TextFormatting.settled, hal, hsize]

theorem TextBlock.rel_read
    (h : Alike TextBlock.fields
      (fun i b b' => i = 1 ∧ Alike TextFormatting.fields InFormatting b b') a a') :
    Option.Rel (fun b b' => (BlockKind.text b).settled = (BlockKind.text b').settled)
      (TextBlock.read a) (TextBlock.read a') := by
  refine h.rel_read fun r r' halike => ?_
  have hcontent : r.orElse 0 "" Json.readString = r'.orElse 0 "" Json.readString :=
    halike.orElse_eq fun _ _ hb => absurd hb.1 (by decide)
  have hformatting : Option.Rel (fun f f' : TextFormatting => f.settled = f'.settled)
      (r.orElse 1 {} TextFormatting.read) (r'.orElse 1 {} TextFormatting.read) :=
    halike.rel_orElse (fun _ => rfl) fun b b' hb =>
      ⟨hb.2.isNull_eq, TextFormatting.rel_read hb.2⟩
  rw [hcontent]
  refine Json.rel_bind_same fun content => Json.rel_bind hformatting fun f f' hf => .some ?_
  simp only [BlockKind.settled, hf]

theorem CtaBlock.rel_read
    (h : Alike CtaBlock.fields (fun i b b' => i = 3 ∧ Forgotten CtaVariant.name b b') a a') :
    Option.Rel (fun b b' => (BlockKind.cta b).settled = (BlockKind.cta b').settled)
      (CtaBlock.read a) (CtaBlock.read a') := by
  refine h.rel_read fun r r' halike => ?_
  have hvariant := halike.rel_name CtaVariant.ofName_unknown (i := 3) fun _ _ hb => hb.2
  have htext : readText? r 0 = readText? r' 0 :=
    halike.optional_eq fun _ _ hb => absurd hb.1 (by decide)
  have hlink : readText? r 1 = readText? r' 1 :=
    halike.optional_eq fun _ _ hb => absurd hb.1 (by decide)
  have hurl : readText? r 2 = readText? r' 2 :=
    halike.optional_eq fun _ _ hb => absurd hb.1 (by decide)
  rw [htext, hlink, hurl]
  refine Json.rel_bind_same fun text => Json.rel_bind_same fun link => ?_
  refine Json.rel_bind_same fun url => Json.rel_bind hvariant fun look look' hlook => .some ?_
  simp only [BlockKind.settled, hlook]

theorem DividerBlock.rel_read
    (h : Alike DividerBlock.fields (fun i b b' => i = 0 ∧ Forgotten DividerStyle.name b b') a a') :
    Option.Rel (fun b b' => (BlockKind.divider b).settled = (BlockKind.divider b').settled)
      (DividerBlock.read a) (DividerBlock.read a') := by
  refine h.rel_read fun r r' halike => ?_
  have hstyle := halike.rel_name DividerStyle.ofName_unknown (i := 0) fun _ _ hb => hb.2
  have hcolor : readText? r 1 = readText? r' 1 :=
    halike.optional_eq fun _ _ hb => absurd hb.1 (by decide)
  have hheight : r.optional 2 Json.readUInt32 = r'.optional 2 Json.readUInt32 :=
    halike.optional_eq fun _ _ hb => absurd hb.1 (by decide)
  rw [hcolor, hheight]
  refine Json.rel_bind hstyle fun style style' hstyle => ?_
  refine Json.rel_bind_same fun color => Json.rel_bind_same fun height => .some ?_
  simp only [BlockKind.settled, hstyle]

theorem rel_reader {typeName : String} {reader : α → Option BlockKind}
    (hreader : payloadReader? typeName = some reader)
    (h : Alike (payloadFields typeName)
      (InPayload (Alike TextFormatting.fields InFormatting) typeName) a a') :
    Option.Rel (fun kind kind' => kind.settled = kind'.settled) (reader a) (reader a') := by
  have hknown := hreader
  unfold payloadReader? at hreader
  split at hreader
  case h_1 => cases hreader; exact Json.rel_map (TextBlock.rel_read h) fun _ _ h => h
  case h_3 => cases hreader; exact Json.rel_map (CtaBlock.rel_read h) fun _ _ h => h
  case h_6 => cases hreader; exact Json.rel_map (DividerBlock.rel_read h) fun _ _ h => h
  case h_10 => cases hreader
  all_goals
    rw [reader_alike hknown (h.imp fun _ _ _ (hb : False) => hb.elim)]
    exact Json.rel_refl (P := fun kind kind' : BlockKind => kind.settled = kind'.settled)
      (fun _ => rfl) _

end BlockMail
