import BlockMail.Proofs.Block.Notice
import BlockMail.Proofs.Document.Leniency
import BlockMail.Proofs.Json.Spelling

/-! # Names that an editor may choose

Some fields of a document, of its branding and of a footer have several names.  It does not matter
which of them is written, nor in which order the members stand, in a document and in what it holds
(`Document.Respelled`).  But no field may be written twice: with two members for one field there is
no document, or, if they stand in the payload of a footer, no such block (`spelling_free`).

The payload of a footer is read from a value, which has no name twice.  In a text one name may come
twice, and the members of a payload in which it does cannot be renamed one by one.
-/

namespace BlockMail

open Json (Source Value Placed Tree RecordsAlike Rewritten TwoSpellings Exchanged Holds NamesOnce
  Readable exchange isNull view value? readNullable)

variable {α : Type} [Source α] {a a' b b' : α}

/-! ## Brandings and footers -/

theorem Branding.read_rewritten (h : Rewritten Branding.fields a a') :
    Branding.read a = Branding.read a' :=
  h.recordsAlike.read_eq fun _ _ halike => by simp only [halike.optional_flat]

theorem Branding.read_of_twoSpellings (h : TwoSpellings Branding.fields a) :
    Branding.read a = none := by
  rw [Branding.read, h.read?_eq_none]
  rfl

theorem FooterBlock.read_rewritten (h : Rewritten FooterBlock.fields a a') :
    FooterBlock.read a = FooterBlock.read a' :=
  h.recordsAlike.read_eq fun _ _ halike => by
    simp only [readText?, readFlag, halike.optional_flat, halike.orElse_flat]

theorem FooterBlock.read_of_twoSpellings (h : TwoSpellings FooterBlock.fields a) :
    FooterBlock.read a = none := by
  rw [FooterBlock.read, h.read?_eq_none]
  rfl

/-! ## Payloads and entries -/

section Footers

variable {v v' w w' : Value}

theorem BlockKind.read_footer (h : isNull v = false) :
    BlockKind.read "footer" v = match FooterBlock.read v with
      | none => .error .malformed
      | some b => .ok (.footer b) := by
  unfold BlockKind.read
  simp only [payloadReader?, payloadOf_of_isNull h]
  cases FooterBlock.read v <;> rfl

theorem BlockKind.read_footer_rewritten (h : Rewritten FooterBlock.fields v v') :
    PayloadSame "footer" v v' := by
  obtain ⟨hnull, hnull'⟩ := h.isNull_eq_false
  unfold PayloadSame
  rw [BlockKind.read_footer hnull, BlockKind.read_footer hnull', FooterBlock.read_rewritten h]

theorem BlockKind.read_footer_of_twoSpellings (h : TwoSpellings FooterBlock.fields v) :
    BlockKind.read "footer" v = .error .malformed := by
  rw [BlockKind.read_footer h.isNull_eq_false, FooterBlock.read_of_twoSpellings h]

theorem BlockEntry.toBlock_of_twoSpellings {e : BlockEntry} (htype : e.typeName = some "footer")
    (h : TwoSpellings FooterBlock.fields e.data) :
    e.toBlock = .error (.malformed e.id "footer") := by
  unfold BlockEntry.toBlock
  simp only [htype, BlockKind.read_footer_of_twoSpellings h]

/-- Two values that are one footer, but for the way in which its payload is written. -/
inductive FooterRewritten (v v' : Value) : Prop
  | payload {w w' : Value} (htype : BlockEntry.typeIn? v = some "footer")
      (hexchange : Exchanged BlockEntry.fields 3 w w' v v') (h : Rewritten FooterBlock.fields w w')

/-- A footer whose payload has two members for one field. -/
inductive FooterAmbiguous (v : Value) : Prop
  | payload {w : Value} (htype : BlockEntry.typeIn? v = some "footer")
      (hholds : Holds BlockEntry.fields 3 w v) (h : TwoSpellings FooterBlock.fields w)

theorem insideEntry_footer {P : String → α → α → Prop}
    (htype : BlockEntry.typeIn? a = some "footer") (h : P "footer" b b') {i : Nat} {c c' : α}
    (hinside : exchange 3 b b' i c c') :
    BlockEntry.insideEntry P a i c c' := by
  obtain ⟨rfl, rfl, rfl⟩ := hinside
  exact ⟨rfl, "footer", fun _ hwritten => Option.some.inj (hwritten.symm.trans htype), h⟩

theorem FooterRewritten.readAlike (h : FooterRewritten v v') : BlockEntry.ReadAlike v v' := by
  obtain ⟨htype, hexchange, h⟩ := h
  refine BlockEntry.read_of_value (hexchange.recordsAlike.imp fun i c c' hinside => ?_)
  exact insideEntry_footer htype (BlockKind.read_footer_rewritten h) hinside

theorem ofValues_of_slot {r : Json.Record Value}
    (hr : Json.Record.read? BlockEntry.fields v = some r)
    (htype : BlockEntry.typeIn? v = some "footer") (hslot : r.slot? 3 = some w)
    (h : TwoSpellings FooterBlock.fields w) : Block.ofValues [v] = [] := by
  unfold Block.ofValues Block.ofEntries
  cases hread : BlockEntry.read v with
  | none => simp [hread]
  | some e =>
    obtain ⟨-, he⟩ := BlockEntry.read_eq_some_iff.mp hread
    obtain ⟨-, hslot1, -, hslot3⟩ := slots_of_entry hr
    have htypeName : e.typeName = some "footer" := by
      rw [BlockEntry.typeIn?, hr, Option.bind_some, hslot1] at htype
      rw [he]
      exact htype
    have hdata : e.data = w := by
      rw [he, BlockEntry.writtenIn, BlockEntry.payloadIn, ← hslot3, hslot]
      rfl
    have hblock := BlockEntry.toBlock_of_twoSpellings htypeName (hdata ▸ h)
    simp [hread, hblock, Except.toOption]

theorem FooterAmbiguous.ofValues_eq_nil (h : FooterAmbiguous v) : Block.ofValues [v] = [] := by
  obtain ⟨htype, hholds, h⟩ := h
  obtain ⟨r, hr, -⟩ := Option.bind_eq_some_iff.mp htype
  exact ofValues_of_slot hr htype (hholds.slot?_eq hr (by decide)) h

end Footers

/-! ## Entries in a text -/

section Texts

variable {e e' : Placed}

/-- The same in a text: by the values of two items, or by what is written, if no name comes twice
    in the payload. -/
inductive FooterRewrittenInText (e e' : Placed) : Prop
  | value {v v' : Value} (hv : e.Denotes v) (hv' : e'.Denotes v') (h : FooterRewritten v v')
  | text {q q' : Placed} (htype : BlockEntry.typeIn? e = some "footer")
      (hexchange : Exchanged BlockEntry.fields 3 q q' e e') (h : Rewritten FooterBlock.fields q q')
      (honce : NamesOnce q) (honce' : NamesOnce q')

inductive FooterAmbiguousInText (e : Placed) : Prop
  | value {v : Value} (hv : e.Denotes v) (h : FooterAmbiguous v)
  | text {q : Placed} (hreadable : Readable e) (htype : BlockEntry.typeIn? e = some "footer")
      (hholds : Holds BlockEntry.fields 3 q e) (h : TwoSpellings FooterBlock.fields q)

theorem FooterRewrittenInText.rel_value? (h : FooterRewrittenInText e e') :
    Option.Rel BlockEntry.ReadAlike (value? e) (value? e') := by
  cases h with
  | value hv hv' h =>
    unfold Placed.Denotes at hv hv'
    rw [hv, hv']
    exact .some h.readAlike
  | text htype hexchange h honce honce' =>
    refine Json.rel_value? (hexchange.readable_iff h.readable_iff) fun v v' hv hv' => ?_
    obtain ⟨r, hr, -⟩ := Option.bind_eq_some_iff.mp htype
    have hrecords := hexchange.recordsAlike
    unfold RecordsAlike at hrecords
    rw [hr] at hrecords
    generalize hr' : Json.Record.read? BlockEntry.fields e' = o at hrecords
    cases hrecords with
    | some halike =>
      refine BlockEntry.read_of_value (Json.Alike.recordsAlike ?_)
      refine (Json.Alike.records hr hr' halike).denotes hv hv'
        fun _ _ i c c' w w' hinside hw hw' => ?_
      obtain ⟨rfl, rfl, rfl⟩ := hinside
      rw [BlockEntry.typeIn?_denotes hv hr] at htype
      refine insideEntry_footer htype ?_ ⟨rfl, rfl, rfl⟩
      exact BlockKind.read_footer_rewritten (h.denotes honce honce' hw hw')

theorem FooterAmbiguousInText.exists_value (h : FooterAmbiguousInText e) :
    ∃ v, e.Denotes v ∧ Block.ofValues [v] = [] := by
  cases h with
  | value hv h => exact ⟨_, hv, h.ofValues_eq_nil⟩
  | text hreadable htype hholds h =>
    obtain ⟨v, hv⟩ := Option.isSome_iff_exists.mp hreadable
    obtain ⟨r, hr, -⟩ := Option.bind_eq_some_iff.mp htype
    obtain ⟨s, hs, hagree⟩ := Json.Record.read?_denotes hv hr
    have hslot := hagree 3
    rw [hholds.slot?_eq hr (by decide)] at hslot
    generalize hw : s.slot? 3 = o at hslot
    cases hslot with
    | some hdenotes =>
      rw [BlockEntry.typeIn?_denotes hv hr] at htype
      exact ⟨v, hv, ofValues_of_slot hs htype hw (h.denotes hdenotes)⟩

end Texts

/-! ## Documents -/

namespace Document

/-- A document that is written in another way: its own members, those of its branding, or an item
    of its block list. -/
inductive Respelled (item : α → α → Prop) : α → α → Prop
  | members {a a' : α} (h : Rewritten fields a a') : Respelled item a a'
  | branding {a a' b b' : α} (hexchange : Exchanged fields 4 b b' a a')
      (h : Rewritten Branding.fields b b') : Respelled item a a'
  | entry {a a' l l' e e' : α} (before after : List α)
      (hexchange : Exchanged fields blocksField l l' a a')
      (hview : view l = .array (before ++ e :: after))
      (hview' : view l' = .array (before ++ e' :: after)) (h : item e e') : Respelled item a a'
  | trans {a a' a'' : α} (h : Respelled item a a') (h' : Respelled item a' a'') :
      Respelled item a a''

/-- A document with two members for one field, its own or of its branding. -/
inductive Ambiguous (a : α) : Prop
  | members (h : TwoSpellings fields a)
  | branding {b : α} (hholds : Holds fields 4 b a) (h : TwoSpellings Branding.fields b)

/-- A document, and the same without an item of its block list. -/
inductive Without (e a a' : α) : Prop
  | item {l l' : α} (before after : List α) (hexchange : Exchanged fields blocksField l l' a a')
      (hview : view l = .array (before ++ e :: after)) (hview' : view l' = .array (before ++ after))

theorem readNullable_readBlocks {items items' : List α} {l l' : α} (hview : view l = .array items)
    (hview' : view l' = .array items')
    (h : (readValues l).map Block.ofValues = (readValues l').map Block.ofValues) :
    readNullable readBlocks l = readNullable readBlocks l' := by
  unfold readNullable isNull readBlocks
  rw [hview, hview', h]

/-- A document notices its block list by the blocks only. -/
theorem ofSource?_blocks {l l' : α} {items items' : List α}
    (hexchange : Exchanged fields blocksField l l' a a') (hview : view l = .array items)
    (hview' : view l' = .array items')
    (h : (readValues l).map Block.ofValues = (readValues l').map Block.ofValues) :
    ofSource? a = ofSource? a' := by
  refine ofSource?_alike hexchange.recordsAlike (fun _ _ _ hinside => .inl hinside.1) ?_ ?_
  · rintro c c' ⟨-, rfl, rfl⟩
    exact readNullable_readBlocks hview hview' h
  · rintro c c' ⟨hfield, -⟩
    cases hfield

theorem ofSource?_respelled {item : α → α → Prop}
    (hitem : ∀ e e', item e e' → Option.Rel BlockEntry.ReadAlike (value? e) (value? e'))
    (h : Respelled item a a') : ofSource? a = ofSource? a' := by
  induction h with
  | members h => exact ofSource?_alike h.recordsAlike nofun nofun nofun
  | branding hexchange h =>
    refine ofSource?_alike hexchange.recordsAlike (fun _ _ _ hinside => .inr hinside.1) ?_ ?_
    · rintro c c' ⟨hfield, -⟩
      cases hfield
    · rintro c c' ⟨-, rfl, rfl⟩
      exact h.readNullable_eq (Branding.read_rewritten h)
  | entry before after hexchange hview hview' h =>
    refine ofSource?_blocks hexchange hview hview' (readValues_rel hview hview' ?_)
    have hsame : ∀ bs : List α, List.Forall₂
        (fun b b' => Option.Rel BlockEntry.ReadAlike (value? b) (value? b')) bs bs :=
      fun bs => List.forall₂_same.mpr fun b _ => Json.rel_refl BlockEntry.ReadAlike.refl _
    exact List.rel_append (hsame _) (.cons (hitem _ _ h) (hsame _))
  | trans _ _ ih ih' => exact ih.trans ih'

theorem ofSource?_ambiguous (h : Ambiguous a) : ofSource? a = none := by
  unfold ofSource?
  cases h with
  | members h =>
    rw [h.read?_eq_none]
    rfl
  | branding hholds h =>
    cases hr : Json.Record.read? fields a with
    | none => rfl
    | some r =>
      have hbranding : r.optional 4 Branding.read = none := by
        unfold Json.Record.optional
        rw [hholds.slot?_eq hr (by decide)]
        exact h.readNullable_eq_none (Branding.read_of_twoSpellings h)
      simp [hbranding]

theorem ofSource?_without {e : α} {v : Value} (hv : value? e = some v)
    (hnone : Block.ofValues [v] = []) (h : Without e a a') : ofSource? a = ofSource? a' := by
  obtain @⟨l, l', before, after, hexchange, hview, hview'⟩ := h
  refine ofSource?_blocks hexchange hview hview' ?_
  have hdrop : ∀ vs ws, Block.ofValues (vs ++ v :: ws) = Block.ofValues (vs ++ ws) := by
    intro vs ws
    rw [List.append_cons, Block.ofValues_append, Block.ofValues_append, hnone, List.append_nil,
      Block.ofValues_append]
  rw [readValues_of_array hview, readValues_of_array hview', List.mapM_append, List.mapM_append,
    List.mapM_cons, hv]
  cases before.mapM value? <;> cases after.mapM value? <;> simp [hdrop]

end Document

/-! ## Everything that has several names -/

/-- Which name is chosen for a field and in which order members stand does not matter for what is
    read from a source of a kind, and no field may be written twice. -/
structure SpellingFree (α : Type) [Source α] : Prop where
  branding : ∀ a a' : α, Rewritten Branding.fields a a' → Branding.read a = Branding.read a'
  footer : ∀ a a' : α, Rewritten FooterBlock.fields a a' → FooterBlock.read a = FooterBlock.read a'
  payload : ∀ v v' : Value, Rewritten FooterBlock.fields v v' →
    BlockKind.read "footer" v = BlockKind.read "footer" v'
  document : ∀ (s s' : String) (t t' : Tree), (Json.read s).tree? = some t →
    (Json.read s').tree? = some t' →
    Document.Respelled FooterRewrittenInText t.outermost t'.outermost →
    Document.read (Json.read s) = Document.read (Json.read s')
  documentValue : ∀ v v' : Value, Document.Respelled FooterRewritten v v' →
    Document.ofSource? v = Document.ofSource? v'
  /-- Two members for one field of a document or of its branding leave no document. -/
  ambiguousDocument : ∀ (s : String) (t : Tree), (Json.read s).tree? = some t →
    Document.Ambiguous t.outermost → Document.read (Json.read s) = none
  ambiguousSource : ∀ a : α, Document.Ambiguous a → Document.ofSource? a = none
  ambiguousBranding : ∀ a : α, TwoSpellings Branding.fields a → Branding.read a = none
  ambiguousFooter : ∀ a : α, TwoSpellings FooterBlock.fields a → FooterBlock.read a = none
  /-- Two members for one field of a footer leave no block of its entry, … -/
  ambiguousPayload : ∀ e : BlockEntry, e.typeName = some "footer" →
    TwoSpellings FooterBlock.fields e.data → e.toBlock = .error (.malformed e.id "footer")
  /-- … and nothing else is lost. -/
  footerDropped : ∀ (s s' : String) (t t' : Tree) (e : Placed), (Json.read s).tree? = some t →
    (Json.read s').tree? = some t' → FooterAmbiguousInText e →
    Document.Without e t.outermost t'.outermost →
    Document.read (Json.read s) = Document.read (Json.read s')
  footerDroppedValue : ∀ v v' e : Value, FooterAmbiguous e → Document.Without e v v' →
    Document.ofSource? v = Document.ofSource? v'

theorem Document.read_of_tree {s : String} {t : Tree} (h : (Json.read s).tree? = some t) :
    Document.read (Json.read s) = Document.ofSource? t.outermost := by
  unfold Document.read
  rw [h]

/-- **One field, many names.**  Any name of a field will do, in any order of the members, and no
    field can be written twice. -/
theorem spelling_free : SpellingFree α where
  branding _ _ := Branding.read_rewritten
  footer _ _ := FooterBlock.read_rewritten
  payload _ _ := BlockKind.read_footer_rewritten
  document s s' t t' ht ht' h := by
    rw [Document.read_of_tree ht, Document.read_of_tree ht']
    exact Document.ofSource?_respelled (fun _ _ => FooterRewrittenInText.rel_value?) h
  documentValue _ _ := Document.ofSource?_respelled fun _ _ h => .some h.readAlike
  ambiguousDocument s t ht h := (Document.read_of_tree ht).trans (Document.ofSource?_ambiguous h)
  ambiguousSource _ := Document.ofSource?_ambiguous
  ambiguousBranding _ := Branding.read_of_twoSpellings
  ambiguousFooter _ := FooterBlock.read_of_twoSpellings
  ambiguousPayload _ := BlockEntry.toBlock_of_twoSpellings
  footerDropped s s' t t' e ht ht' h hwithout := by
    obtain ⟨v, hv, hnone⟩ := h.exists_value
    rw [Document.read_of_tree ht, Document.read_of_tree ht']
    exact Document.ofSource?_without hv hnone hwithout
  footerDroppedValue _ _ _ h := Document.ofSource?_without rfl h.ofValues_eq_nil

/-! ## Editors and settings -/

open Json (word view_ofMembers)

theorem Json.namesOnce_ofMembers {members : List (String × Tree)}
    (h : (members.map (·.1)).Nodup) (room : Nat) :
    NamesOnce (⟨room + 1, .ofMembers members⟩ : Placed) := by
  intro ms sound hview
  rw [view_ofMembers] at hview
  cases hview
  rwa [List.map_map]

theorem Json.exchanged_ofMembers {fields : List Json.Field} {i : Nat} {name : String}
    (hname : Json.fieldOf? fields name = some i) (before after : List (String × Tree)) (t t' : Tree)
    (room : Nat) : Exchanged fields i (⟨room, t⟩ : Placed) ⟨room, t'⟩
      ⟨room + 1, .ofMembers (before ++ (name, t) :: after)⟩
      ⟨room + 1, .ofMembers (before ++ (name, t') :: after)⟩ := by
  have hview : ∀ t, view (⟨room + 1, .ofMembers (before ++ (name, t) :: after)⟩ : Placed)
      = .object (before.map (fun m => (m.1, ⟨room, m.2⟩)) ++ (name, ⟨room, t⟩)
        :: after.map fun m => (m.1, ⟨room, m.2⟩)) true := by
    intro t
    rw [view_ofMembers, List.map_append, List.map_cons]
  exact .member hname (hview t) (hview t')

/-- What an editor sends, with the names that it and the settings have for things. -/
def editorText : String :=
  "\x7b\"mockData\":\x7b\x7d,\"organizationSettings\":\x7b\"business_name\":\"Lens\"\x7d,"
    ++ "\"blocks\":[\x7b\"type\":\"footer\",\"data\":\x7b\"showBusinessName\":true\x7d\x7d]\x7d"

def editorFooter : Tree := .ofMembers [("showBusinessName", .bool true)]

def editorBranding : Tree := .ofMembers [("business_name", .string (word "Lens"))]

def footerTree (payload : Tree) : Tree :=
  .ofMembers [("type", .string (word "footer")), ("data", payload)]

def editorTree (payload branding : Tree) : Tree :=
  .ofMembers
    [ ("mockData", .ofMembers []), ("organizationSettings", branding),
      ("blocks", .array [footerTree payload]) ]

/-- The same in the names that a document has for them. -/
def savedText : String :=
  "\x7b\"blocks\":[\x7b\"type\":\"footer\",\"data\":\x7b\"showStudioName\":true\x7d\x7d],"
    ++ "\"branding\":\x7b\"businessName\":\"Lens\"\x7d,\"data\":\x7b\x7d\x7d"

def savedFooter : Tree := .ofMembers [("showStudioName", .bool true)]

def savedBranding : Tree := .ofMembers [("businessName", .string (word "Lens"))]

def savedTree : Tree :=
  .ofMembers
    [ ("blocks", .array [footerTree savedFooter]), ("branding", savedBranding),
      ("data", .ofMembers []) ]

theorem editorFooter_rewritten : FooterRewrittenInText ⟨125, footerTree editorFooter⟩
    ⟨125, footerTree savedFooter⟩ := by
  have hpayload : Rewritten FooterBlock.fields (⟨124, editorFooter⟩ : Placed) ⟨124, savedFooter⟩ :=
    .members (view_ofMembers 123 _) (view_ofMembers 123 _)
      (.rename (i := 1) (by decide) (by decide) _ _)
  refine .text (by decide +kernel) ?_ hpayload (Json.namesOnce_ofMembers (by decide) 123)
    (Json.namesOnce_ofMembers (by decide) 123)
  exact Json.exchanged_ofMembers (by decide) [("type", _)] [] _ _ 124

theorem editorTree_respelled : Document.Respelled FooterRewrittenInText
    (editorTree editorFooter editorBranding).outermost savedTree.outermost := by
  have hbranding : Document.Respelled FooterRewrittenInText
      (editorTree editorFooter editorBranding).outermost
      (editorTree editorFooter savedBranding).outermost := by
    refine .branding (Json.exchanged_ofMembers (by decide) [("mockData", _)] _ _ _ 126) ?_
    refine .members (view_ofMembers 125 _) (view_ofMembers 125 _) ?_
    exact .rename (i := 0) (by decide) (by decide) _ _
  have hfooter : Document.Respelled FooterRewrittenInText
      (editorTree editorFooter savedBranding).outermost
      (editorTree savedFooter savedBranding).outermost := by
    have hlist : Exchanged Document.fields Document.blocksField
        (⟨126, .array [footerTree editorFooter]⟩ : Placed) ⟨126, .array [footerTree savedFooter]⟩
        (editorTree editorFooter savedBranding).outermost
        (editorTree savedFooter savedBranding).outermost :=
      Json.exchanged_ofMembers (by decide) [("mockData", _), ("organizationSettings", _)] [] _ _ 126
    exact .entry [] [] hlist rfl rfl editorFooter_rewritten
  have hmembers : Rewritten Document.fields (editorTree savedFooter savedBranding).outermost
      savedTree.outermost := by
    refine .members (view_ofMembers 126 _) (view_ofMembers 126 _) ?_
    refine .trans ?_ (.of_perm (List.reverse_perm _))
    exact .trans (.rename (i := 3) (by decide) (by decide) _ _)
      (.cons _ (.rename (i := 4) (by decide) (by decide) _ _))
  exact hbranding.trans (hfooter.trans (.members hmembers))

/-- A footer that says twice whether to show the name. -/
def doubtfulPayload : Tree :=
  .ofMembers [("showStudioName", .bool true), ("showBusinessName", .null)]

theorem doubtfulFooter_ambiguous : FooterAmbiguousInText ⟨125, footerTree doubtfulPayload⟩ := by
  have hpayload : TwoSpellings FooterBlock.fields (⟨124, doubtfulPayload⟩ : Placed) :=
    .members (view_ofMembers 123 _) (.head _) (.tail _ (.head _)) (by decide) (i := 1) (by decide)
      (by decide)
  have hholds : Holds BlockEntry.fields 3 (⟨124, doubtfulPayload⟩ : Placed)
      ⟨125, footerTree doubtfulPayload⟩ :=
    .member (by decide) (view_ofMembers 124 _) (.tail _ (.head _))
  exact .text rfl (by decide +kernel) hholds hpayload

theorem doubtfulFooter_without : Document.Without (⟨125, footerTree doubtfulPayload⟩ : Placed)
    (Tree.ofMembers [("blocks", .array [footerTree doubtfulPayload])]).outermost
    (Tree.ofMembers [("blocks", .array [])]).outermost := by
  have hlist : Exchanged Document.fields Document.blocksField
      (⟨126, .array [footerTree doubtfulPayload]⟩ : Placed) ⟨126, .array []⟩
      (Tree.ofMembers [("blocks", .array [footerTree doubtfulPayload])]).outermost
      (Tree.ofMembers [("blocks", .array [])]).outermost :=
    Json.exchanged_ofMembers (by decide) [] [] _ _ 126
  exact .item [] [] hlist rfl rfl

/-- The editor and the settings are understood, and what is said twice is refused. -/
theorem spelling_free_editor :
    Document.read (Json.read editorText) = Document.read (Json.read savedText)
      ∧ Document.read (Json.read savedText)
        = some
            { blocks := [⟨"", 0, .footer { showBusinessName := true }⟩],
              branding := some { businessName := some "Lens" } }
      ∧ Document.read (Json.read "\x7b\"data\":\x7b\x7d,\"mockData\":null\x7d") = none
      ∧ Document.read (Json.read ("\x7b\"blocks\":[\x7b\"type\":\"footer\",\"data\":\x7b"
          ++ "\"showStudioName\":true,\"showBusinessName\":null\x7d\x7d]\x7d"))
        = Document.read (Json.read "\x7b\"blocks\":[]\x7d") := by
  have heditor : (Json.read editorText).tree? = some (editorTree editorFooter editorBranding) := by
    cbv
  have hsaved : (Json.read savedText).tree? = some savedTree := by cbv
  refine ⟨?_, (Document.read_of_tree hsaved).trans (by decide +kernel), ?_, ?_⟩
  · exact (spelling_free (α := Value)).document _ _ _ _ heditor hsaved editorTree_respelled
  · refine (spelling_free (α := Value)).ambiguousDocument _
      (.ofMembers [("data", .ofMembers []), ("mockData", .null)]) (by cbv) (.members ?_)
    exact .members (view_ofMembers 126 _) (.head _) (.tail _ (.head _)) (by decide) (i := 3)
      (by decide) (by decide)
  · exact (spelling_free (α := Value)).footerDropped _ _ _ _ _ (by cbv) (by cbv)
      doubtfulFooter_ambiguous doubtfulFooter_without

-- Of two members by one name the value of a payload keeps one, so no field is written twice; once
-- one of them has another name, both are kept.
example :
    (Tree.value? 1
        (.ofMembers [("showStudioName", .bool true), ("showStudioName", .bool true)])).bind
        FooterBlock.read = some { showBusinessName := true }
      ∧ (Tree.value? 1
          (.ofMembers [("showBusinessName", .bool true), ("showStudioName", .bool true)])).bind
        FooterBlock.read = none := by
  decide +kernel

end BlockMail
