import BlockMail.Proofs.Block.Notice
import BlockMail.Proofs.Document.BlockList

/-! # Notices about the block list of a document

What is said about a block list is settled when the list has been read.  As long as the text before
the list can be the beginning of a document, it does not matter what comes behind: a field that
cannot be read, a field that comes twice, or text that is no JSON at all.
-/

namespace BlockMail

open Json (Tree Placed Record Frame Field itemValues? arrivals?)
open Json.Builder (Completes)

namespace Json

variable {fields : List Field} {i : Nat}

/-! ## Fields before the list -/

/-- A container that waits for the field at a position passes on the same fields before it, however
    it is completed. -/
theorem exists_arrivals_completed {f : Frame} {result₀ result : Tree → Tree} {t₀ : Tree}
    {r₀ : Record Placed} (hf : f.Awaits fields i) (h₀ : Completes f result₀)
    (hr₀ : Record.read? fields (result₀ t₀).outermost = some r₀) (h : Completes f result)
    (t : Tree) :
    ∃ p q₀ q, r₀.slots = p ++ (i, ⟨nestingLimit - 1, t₀⟩) :: q₀
      ∧ (arrivals? fields (result t).outermost).map (·.fields)
        = some (p ++ (i, ⟨nestingLimit - 1, t⟩) :: q) := by
  cases h₀ with
  | @object members key after₀ =>
    cases h with
    | object after => exact exists_arrivals_object hf hr₀ t after
  | @array items after₀ =>
    cases h with
    | array after =>
      exact exists_arrivals_array (by rw [List.length_reverse, hf.1]) hf.2 hr₀ t after

end Json

namespace Document

/-! ## The list -/

section Source

variable {α : Type} [Json.Source α] {a : α} {r : Record α}

theorem fits_of_ofSource? {d : Document} (hd : ofSource? a = some d)
    (hr : Record.read? fields a = some r) {x : Nat × α} (hx : x ∈ r.slots)
    (hne : x.1 ≠ blocksField) : fits x.1 x.2 = true := by
  obtain ⟨hnodup, hkeys⟩ := Record.keys_of_read? hr
  have hslot := Record.slot?_of_mem hnodup hx
  have hkey := hkeys x hx
  obtain ⟨r', hr', hd⟩ := Option.bind_eq_some_iff.mp hd
  obtain rfl : r' = r := Option.some.inj (hr'.symm.trans hr)
  obtain ⟨subject, hsubject, hd⟩ := Option.bind_eq_some_iff.mp hd
  obtain ⟨preheader, hpreheader, hd⟩ := Option.bind_eq_some_iff.mp hd
  obtain ⟨blocks, -, hd⟩ := Option.bind_eq_some_iff.mp hd
  obtain ⟨data, hdata, hd⟩ := Option.bind_eq_some_iff.mp hd
  obtain ⟨branding, hbranding, -⟩ := Option.bind_eq_some_iff.mp hd
  obtain ⟨j, b⟩ := x
  match j with
  | 0 => exact Record.isSome_of_orElse hslot hsubject
  | 1 => exact Record.isSome_of_optional hslot hpreheader
  | 2 => exact absurd rfl hne
  | 3 => exact Record.isSome_of_orElse hslot hdata
  | 4 => exact Record.isSome_of_optional hslot hbranding
  | j + 5 => exact absurd hkey (by simp [fields])

theorem noticesAmong_append {p q : List (Nat × α)} {values : List Json.Value}
    (hp : ∀ x ∈ p, x.1 ≠ blocksField ∧ fits x.1 x.2 = true) (hvalues : readValues a = some values) :
    noticesAmong (p ++ (blocksField, a) :: q) = noticesOf values := by
  induction p with
  | nil => rw [List.nil_append, noticesAmong, if_pos rfl, hvalues]
  | cons x p ih =>
    obtain ⟨hne, hfits⟩ := hp x List.mem_cons_self
    rw [List.cons_append, noticesAmong, if_neg hne, if_pos hfits]
    exact ih fun y hy => hp y (List.mem_cons_of_mem _ hy)

theorem noticesIn_of_fields {found : List (Nat × α)}
    (h : (Json.arrivals? fields a).map (·.fields) = some found) :
    noticesIn a = noticesAmong found := by
  obtain ⟨arrivals, harrivals, rfl⟩ := Option.map_eq_some_iff.mp h
  rw [noticesIn, harrivals]

end Source

theorem notices_listText {pre post₀ : String} (h : AwaitsBlocks pre)
    (hreached : (around pre post₀ []).isSome = true) {entries : List String}
    {values : List Json.Value} (hvalues : entries.map entryValue? = values.map some)
    (post : String) :
    notices (Json.read (pre ++ Json.listText entries ++ post)) = noticesOf values := by
  obtain ⟨f, hpre, hf⟩ := h
  obtain ⟨ts, hts, hitems⟩ := exists_trees hvalues
  -- with one way to go on the text is a document, which settles the fields before the list
  obtain ⟨result?, hcompletes, htree⟩ := Json.tree?_splice hpre post₀
  obtain ⟨d, hd⟩ := Option.isSome_iff_exists.mp hreached
  unfold around read at hd
  rw [htree [] [] rfl] at hd
  cases result? with
  | none => cases hd
  | some result₀ =>
    obtain ⟨r₀, hr₀, -⟩ := Option.bind_eq_some_iff.mp hd
    obtain ⟨result, hresult, hshown⟩ := Json.shown_splice hpre post
    obtain ⟨p, q₀, q, hslots, hfound⟩ := Json.exists_arrivals_completed hf
      (hcompletes result₀ rfl) hr₀ hresult (.array ts)
    have hlist : readValues (Placed.mk (Json.nestingLimit - 1) (.array ts)) = some values :=
      (Json.mapM_value?_eq entryRoom ts).trans hitems
    rw [notices, hshown entries ts hts]
    refine (noticesIn_of_fields hfound).trans (noticesAmong_append (fun x hx => ?_) hlist)
    have hmem : x ∈ r₀.slots := hslots ▸ List.mem_append_left _ hx
    have hne : x.1 ≠ blocksField :=
      Json.key_ne_of_nodup (hslots ▸ (Record.keys_of_read? hr₀).1) hx
    exact ⟨hne, fits_of_ofSource? hd hr₀ hmem hne⟩

/-- **No silent loss.**  When the block list of a document is read, its values are accounted for:
    each makes a block or is the subject of one notice, whatever comes behind the list. -/
theorem entries_accounted {pre post₀ : String} (h : AwaitsBlocks pre)
    (hreached : (around pre post₀ []).isSome = true) {entries : List String}
    {values : List Json.Value} (hvalues : entries.map entryValue? = values.map some) :
    Accounted values (verdicts values) (noticesOf values) (Block.ofValues values)
      ∧ ∀ post, notices (Json.read (pre ++ Json.listText entries ++ post)) = noticesOf values
        ∧ ∀ d, around pre post entries = some d → d.blocks = Block.ofValues values := by
  refine ⟨accounted values, fun post => ⟨notices_listText h hreached hvalues post, fun d hd => ?_⟩⟩
  rw [around_eq h post hvalues] at hd
  obtain ⟨d₀, -, rfl⟩ := Option.map_eq_some_iff.mp hd
  rfl

def plainOpening : String := "\x7b\"blocks\":"

/-- An entry without a type, no entry at all, a footer, and a text whose content is no text. -/
def mixedEntries : List String :=
  [ "\x7b\"id\":\"a\"\x7d", "true", "\x7b\"type\":\"footer\"\x7d",
    "[\"b\",\"text\",null,[false]]" ]

theorem entries_accounted_mixed :
    AwaitsBlocks plainOpening ∧ (around plainOpening "\x7d" []).isSome = true
      ∧ notices (Json.read (plainOpening ++ Json.listText mixedEntries ++ ",\"subject\":5"))
        = [.undecodable 1, .untyped "a", .malformed "b" "text"]
      ∧ ∀ d, around plainOpening "\x7d" mixedEntries = some d →
        d.blocks = [⟨"", 0, .footer {}⟩] := by
  have h : AwaitsBlocks plainOpening :=
    ⟨.member [] ("blocks".toList.map .char), by cbv, by cbv⟩
  have hreached : (around plainOpening "\x7d" []).isSome = true := by decide +kernel
  have hvalues : mixedEntries.map entryValue? = List.map some
      [ .object [("id", .string "a")], .bool true, .object [("type", .string "footer")],
        .array [.string "b", .string "text", .null, .array [.bool false]] ] := by cbv
  obtain ⟨-, hpost⟩ := entries_accounted h hreached hvalues
  refine ⟨h, hreached, (hpost _).1.trans (by decide +kernel), fun d hd => ?_⟩
  exact ((hpost _).2 d hd).trans (by decide +kernel)

end Document

end BlockMail
