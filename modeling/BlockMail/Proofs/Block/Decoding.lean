import Mathlib
import BlockMail.Document
import BlockMail.Proofs.Json.Denotation

/-! # Two ways to read a block list

A list of entries can be read straight from a text, where one item that is no entry spoils the
list, or from the values of its items, where such an item is dropped.  Where the first way
succeeds both give the same blocks, and the second is the first on those items that are entries:
`BlockEntry.decoders_agree`.
-/

namespace BlockMail

open Json (Placed Record Value)

/-- What a text holds, read by `item`. -/
def Json.decode? {β : Type} (item : Placed → Option β) (text : String) : Option β :=
  (Json.read text).tree?.bind fun t => item t.outermost

namespace BlockEntry

theorem read_denotes {p : Placed} {v : Value} {e : BlockEntry} (h : p.Denotes v)
    (he : read p = some e) : read v = some e := by
  obtain ⟨r, hr, he⟩ := Option.bind_eq_some_iff.mp he
  obtain ⟨s, hs, hagree⟩ := Record.read?_denotes h hr
  have hdata : readData r = readData s := by
    have hslot := hagree 3
    unfold readData
    generalize r.slot? 3 = a, s.slot? 3 = b at hslot ⊢
    cases hslot with
    | none => rfl
    | some hv => exact hv
  refine Option.bind_eq_some_iff.mpr ⟨s, hs, ?_⟩
  rw [← he, hagree.orElse Json.readString_denotes, hagree.optional Json.readString_denotes,
    hagree.orElse Json.readInt64_denotes, hdata]

theorem map_read_of_readAll {p : Placed} {entries : List BlockEntry} {values : List Value}
    (hentries : readAll p = some entries) (hvalues : readValues p = some values) :
    values.map read = entries.map some := by
  unfold readAll at hentries
  split at hentries
  · cases hentries
  · next items hitems =>
    have hnull : Json.isNull p = false := by
      unfold Json.readItems at hitems
      unfold Json.isNull
      split at hitems
      · next hview => rw [hview]
      · cases hitems
    rw [readValues, hnull, hitems] at hvalues
    have hread := Json.forall₂_of_mapM hentries
    have hdenotes := Json.forall₂_of_mapM hvalues
    clear hitems hentries hvalues
    induction hdenotes generalizing entries with
    | nil =>
      cases hread
      rfl
    | cons hv _ ih =>
      cases hread with
      | cons he hread => rw [List.map_cons, List.map_cons, ih hread, read_denotes hv he]

theorem filterMap_read {entries : List BlockEntry} {values : List Value}
    (h : values.map read = entries.map some) : values.filterMap read = entries := by
  have hfilter := congrArg (List.filterMap fun o => o) h
  rw [List.filterMap_map, List.filterMap_map] at hfilter
  exact hfilter.trans List.filterMap_some

theorem readAll_filter (values : List Value) :
    readAll (Value.array (values.filter fun v => (read v).isSome))
      = some (values.filterMap read) := by
  show (values.filter fun v => (read v).isSome).mapM read = _
  induction values with
  | nil => rfl
  | cons v values ih =>
    cases hread : read v with
    | none => simp [hread, ih]
    | some e => simp [hread, ih]

theorem readValues_array (values : List Value) : readValues (Value.array values) = some values := by
  show values.mapM some = _
  induction values with
  | nil => rfl
  | cons v values ih => rw [List.mapM_cons, ih]; rfl

/-- **The two ways agree.**  For a text that holds entries only and whose items all have values,
    both give the same blocks, and the items are the same entries either way.  From any values the
    lenient way gives the blocks of those that are entries one by one. -/
theorem decoders_agree :
    (∀ (text : String) (entries : List BlockEntry) (values : List Value),
        Json.decode? readAll text = some entries → Json.decode? readValues text = some values →
        Json.decode? Document.readBlocks text = some (Block.ofEntries entries)
          ∧ values.map read = entries.map some)
      ∧ ∀ values : List Value, ∃ entries,
          readAll (Value.array (values.filter fun v => (read v).isSome)) = some entries
            ∧ Document.readBlocks (Value.array values) = some (Block.ofEntries entries)
            ∧ ∀ text : String, Json.decode? readValues text = some values →
                Json.decode? Document.readBlocks text = some (Block.ofEntries entries) := by
  have hblocks : ∀ (text : String) (values : List Value),
      Json.decode? readValues text = some values →
      Json.decode? Document.readBlocks text = some (Block.ofEntries (values.filterMap read)) := by
    intro text values hvalues
    obtain ⟨t, ht, hvalues⟩ := Option.bind_eq_some_iff.mp hvalues
    rw [Json.decode?, ht, Option.bind_some, Document.readBlocks, hvalues]
    rfl
  refine ⟨fun text entries values hentries hvalues => ?_, fun values =>
    ⟨values.filterMap read, readAll_filter values, ?_, fun text => hblocks text values⟩⟩
  · obtain ⟨t, ht, hentries'⟩ := Option.bind_eq_some_iff.mp hentries
    obtain ⟨t', ht', hvalues'⟩ := Option.bind_eq_some_iff.mp hvalues
    obtain rfl : t = t' := Option.some.inj (ht.symm.trans ht')
    have hmap := map_read_of_readAll hentries' hvalues'
    rw [hblocks text values hvalues, filterMap_read hmap]
    exact ⟨rfl, hmap⟩
  · rw [Document.readBlocks, readValues_array]
    rfl

/-- A text entry with an unknown name that comes twice, no order and a payload whose content comes
    twice, and a divider by position. -/
def mixedText : String :=
  "[\x7b\"id\": \"a\", \"x\": 1, \"x\": [], \"order\": null, \"type\": \"text\", "
    ++ "\"data\": \x7b\"content\": \"Hi\", \"content\": \"Hello\"\x7d\x7d, "
    ++ "[\"b\", \"divider\", 7]]"

def mixedEntries : List BlockEntry :=
  [ { id := "a", typeName := "text", data := .object [("content", .string "Hello")] },
    { id := "b", typeName := "divider", order := 7 } ]

def mixedValues : List Value :=
  [ .object
      [ ("data", .object [("content", .string "Hello")]), ("id", .string "a"), ("order", .null),
        ("type", .string "text"), ("x", .array []) ],
    .array [.string "b", .string "divider", .integer 7] ]

theorem decoders_agree_mixed :
    Json.decode? Document.readBlocks mixedText
        = some [⟨"a", 0, .text { content := "Hello" }⟩, ⟨"b", 7, .divider {}⟩]
      ∧ mixedValues.map read = mixedEntries.map some := by
  have hentries : Json.decode? readAll mixedText = some mixedEntries := by cbv
  have hvalues : Json.decode? readValues mixedText = some mixedValues := by cbv
  obtain ⟨hblocks, hmap⟩ := decoders_agree.1 _ _ _ hentries hvalues
  exact ⟨hblocks.trans (by decide +kernel), hmap⟩

end BlockEntry

end BlockMail
