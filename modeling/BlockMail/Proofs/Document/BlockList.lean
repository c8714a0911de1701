import BlockMail.Document
import BlockMail.Proofs.Block.Contribution
import BlockMail.Proofs.Json.Denotation
import BlockMail.Proofs.Json.Splice
import Mathlib.Data.List.Permutation

/-! # The block list of a document

A document whose text has a list of entries where the blocks stand is read if it is read with
the empty list there, whatever the entries are.  Its blocks are what the entries contribute,
one after the other: `Document.read_listText`.
-/

namespace BlockMail

open Json (Tree Placed Record Frame HoldAt itemValues? tree?_splice)
open Json.Builder (Completes)

namespace Document

/-! ## Entries -/

/-- How many containers an entry of the block list may have open at once: the document and the
    list around it are two. -/
def entryRoom : Nat := Json.nestingLimit - 2

/-- The value of a text that is listed as an entry, if it is one. -/
def entryValue? (e : String) : Option Json.Value :=
  (Json.read e).tree?.bind (Tree.value? entryRoom)

theorem readBlocks_array {room : Nat} {ts : List Tree} {values : List Json.Value}
    (h : itemValues? room ts = some values) :
    readBlocks (Placed.mk (room + 1) (.array ts)) = some (Block.ofValues values) := by
  have hread : readValues (Placed.mk (room + 1) (.array ts)) = itemValues? room ts :=
    Json.mapM_value?_eq room ts
  unfold readBlocks
  rw [hread, h, Option.map_some]

theorem exists_trees {entries : List String} {values : List Json.Value}
    (h : entries.map entryValue? = values.map some) :
    ∃ ts, entries.map (fun e => (Json.read e).tree?) = ts.map some
      ∧ itemValues? entryRoom ts = some values := by
  induction entries generalizing values with
  | nil =>
    cases values with
    | nil => exact ⟨[], rfl, rfl⟩
    | cons v values => cases h
  | cons e entries ih =>
    cases values with
    | nil => cases h
    | cons v values =>
      obtain ⟨hv, hvalues⟩ := List.cons.inj h
      obtain ⟨t, ht, hvalue⟩ := Option.bind_eq_some_iff.mp hv
      obtain ⟨ts, hts, hitems⟩ := ih hvalues
      refine ⟨t :: ts, by simp [ht, hts], ?_⟩
      simp [itemValues?, hvalue, hitems]

/-! ## Documents around a list -/

/-- The text breaks off where the block list of a document may stand. -/
def AwaitsBlocks (pre : String) : Prop :=
  ∃ f, (Json.Builder.value []).run (Json.tokens pre.toList) = (.value [f], true)
    ∧ f.Awaits fields blocksField

theorem holdAt_completed {f : Frame} {result : Tree → Tree} (h : Completes f result)
    (hf : f.Awaits fields blocksField) :
    HoldAt blocksField (Placed.mk (entryRoom + 1)) fun t =>
      Record.read? fields (result t).outermost := by
  cases h with
  | object after => exact Json.holdAt_object hf _ _ _
  | array after =>
    refine Json.holdAt_array ?_ hf.2 _ _
    rw [List.length_reverse, hf.1]

/-- The blocks of a document are those of its list, and nothing else depends on the list. -/
theorem ofSource?_completed {f : Frame} {result : Tree → Tree} (h : Completes f result)
    (hf : f.Awaits fields blocksField) {ts : List Tree} {values : List Json.Value}
    (hvalues : itemValues? entryRoom ts = some values) :
    ofSource? (result (.array ts)).outermost
      = (ofSource? (result (.array [])).outermost).map fun d =>
          { d with blocks := Block.ofValues values } := by
  unfold ofSource?
  rcases holdAt_completed h hf with hnone | ⟨p, q, hp, hslots⟩
  · simp [hnone]
  · have hblocks : ∀ us vs, itemValues? entryRoom us = some vs →
        (⟨p ++ (blocksField, ⟨entryRoom + 1, .array us⟩) :: q⟩ : Record Placed).optional
          blocksField readBlocks = some (some (Block.ofValues vs)) := by
      intro us vs hus
      unfold Record.optional Json.readNullable
      rw [Record.slot?_self hp]
      show (readBlocks _).map some = _
      rw [readBlocks_array hus, Option.map_some]
    have hempty := hblocks [] [] rfl
    obtain ⟨h0, h1, h3, h4⟩ :
        0 ≠ blocksField ∧ 1 ≠ blocksField ∧ 3 ≠ blocksField ∧ 4 ≠ blocksField := by decide
    simp only [hslots, Option.bind_eq_bind, Option.bind_some, hblocks ts values hvalues, hempty,
      Record.orElse_of_ne h0, Record.optional_of_ne h1, Record.orElse_of_ne h3,
      Record.optional_of_ne h4]
    generalize (⟨p ++ q⟩ : Record Placed) = r
    generalize r.orElse 0 "" Json.readString = subject, r.optional 1 Json.readString = preheader,
      r.orElse 3 ∅ Context.read = data, r.optional 4 Branding.read = branding
    cases subject <;> cases preheader <;> cases data <;> cases branding <;> rfl

/-- The document of a text with the entries where the block list stands. -/
def around (pre post : String) (entries : List String) : Option Document :=
  read (Json.read (pre ++ Json.listText entries ++ post))

theorem around_eq {pre : String} (h : AwaitsBlocks pre) (post : String) {entries : List String}
    {values : List Json.Value} (hvalues : entries.map entryValue? = values.map some) :
    around pre post entries
      = (around pre post []).map fun d => { d with blocks := Block.ofValues values } := by
  obtain ⟨f, hpre, hf⟩ := h
  obtain ⟨ts, hts, hitems⟩ := exists_trees hvalues
  obtain ⟨result?, hresult, htree⟩ := tree?_splice hpre post
  unfold around read
  rw [htree entries ts hts, htree [] [] rfl]
  cases result? with
  | none => rfl
  | some result => exact ofSource?_completed (hresult result rfl) hf hitems

/-- **A bad block never costs the rest.**  Whatever entries a document lists, it is read if it is
    read without them, and its blocks are what the entries contribute one by one: none or one
    each, as the entry gives it.  So a longer list has the blocks of its parts. -/
theorem read_listText {pre : String} (h : AwaitsBlocks pre) (post : String) :
    (∀ (entries : List String) (values : List Json.Value),
        entries.map entryValue? = values.map some →
        around pre post entries = (around pre post []).map fun d =>
          { d with blocks := values.flatMap fun v => Block.ofValues [v] })
      ∧ (∀ v : Json.Value,
          Block.ofValues [v] = [] ∨ ∃ b : Block, Block.ofValues [v] = [b] ∧ b.GivenBy v)
      ∧ (∀ e : BlockEntry, Block.ofValues [e.toJson] = e.toBlock.toOption.toList)
      ∧ ∀ (es₁ es₂ : List String) (vs₁ vs₂ : List Json.Value),
          es₁.map entryValue? = vs₁.map some → es₂.map entryValue? = vs₂.map some →
          around pre post (es₁ ++ es₂) = (around pre post es₁).bind fun d₁ =>
            (around pre post es₂).map fun d₂ => { d₁ with blocks := d₁.blocks ++ d₂.blocks } := by
  refine ⟨fun entries values hvalues => ?_, Block.ofValues_singleton, Block.ofValues_toJson,
    fun es₁ es₂ vs₁ vs₂ h₁ h₂ => ?_⟩
  · rw [around_eq h post hvalues, Block.ofValues_eq_flatMap]
  · have hvalues : (es₁ ++ es₂).map entryValue? = (vs₁ ++ vs₂).map some := by
      rw [List.map_append, List.map_append, h₁, h₂]
    rw [around_eq h post hvalues, around_eq h post h₁, around_eq h post h₂,
      Block.ofValues_append]
    cases around pre post [] <;> rfl

def noticeOpening : String := "\x7b\"subject\": \"Hi\", \"blocks\": "

def noticeClosing : String := ", \"preheader\": null\x7d"

/-- No entry at all, a text without an order, and a block of no known type. -/
def noticeEntries : List String :=
  [ "true", "\x7b\"id\": \"a\", \"type\": \"text\", \"order\": null\x7d",
    "\x7b\"type\": \"map\"\x7d" ]

theorem read_listText_notice :
    AwaitsBlocks noticeOpening
      ∧ around noticeOpening noticeClosing noticeEntries
        = some { subject := "Hi", blocks := [⟨"a", 0, .text {}⟩] } := by
  have h : AwaitsBlocks noticeOpening :=
    ⟨.member [("subject".toList.map .char, .string ("Hi".toList.map .char))]
      ("blocks".toList.map .char), by cbv, by cbv⟩
  have hvalues : noticeEntries.map entryValue? = List.map some
      [ .bool true,
        .object [("id", .string "a"), ("order", .null), ("type", .string "text")],
        .object [("type", .string "map")] ] := by cbv
  exact ⟨h, ((read_listText h noticeClosing).1 _ _ hvalues).trans (by decide +kernel)⟩

end Document

end BlockMail
