import BlockMail.Proofs.Document.Spelling
import BlockMail.Proofs.Json.Written
import BlockMail.Proofs.Render.Body

/-! # Social channels

The channels of a branding that are shown, each once, in ascending position, and those of one
position in the order of their keys (`Branding.inOrder_iff`).  This leaves no choice, so it does not
matter in which order channels are written.  Social links are one anchor after the other for them,
and nothing at all if there is none.
-/

namespace BlockMail

open Json (Source view readDict readNullable Exchanged exchange)

/-! ## Sorting -/

section Sorting

universe u

variable {α : Type u} {le : α → α → Bool} {r : α → α → Prop} {l : List α}

theorem rel_of_mem_zipIdx (h : l.Pairwise r) {x y : α × Nat} (hx : x ∈ l.zipIdx)
    (hy : y ∈ l.zipIdx) (hlt : x.2 < y.2) : r x.1 y.1 := by
  obtain ⟨hxlt, hxl⟩ := List.getElem?_eq_some_iff.mp (List.mem_zipIdx_iff_getElem?.mp hx)
  obtain ⟨hylt, hyl⟩ := List.getElem?_eq_some_iff.mp (List.mem_zipIdx_iff_getElem?.mp hy)
  rw [← hxl, ← hyl]
  exact List.pairwise_iff_getElem.mp h _ _ hxlt hylt hlt

/-- What sorting cannot tell apart keeps the order that it had. -/
theorem pairwise_mergeSort_ties (htrans : ∀ a b c, le a b = true → le b c = true → le a c = true)
    (htotal : ∀ a b, (le a b || le b a) = true) (h : l.Pairwise r) :
    (l.mergeSort le).Pairwise fun a b => le a b = true ∧ (le b a = true → r a b) := by
  -- with its position beside it no element ties with another
  rw [← List.mergeSort_zipIdx, List.pairwise_map]
  have hperm := List.mergeSort_perm l.zipIdx (List.zipIdxLE le)
  have hsorted := List.pairwise_mergeSort (List.zipIdxLE_trans htrans)
    (List.zipIdxLE_total htotal) l.zipIdx
  have hdistinct : (l.zipIdx.mergeSort (List.zipIdxLE le)).Pairwise fun x y => x.2 ≠ y.2 := by
    refine List.pairwise_map.mp ((hperm.map Prod.snd).nodup_iff.mpr ?_)
    rw [List.zipIdx_map_snd]
    exact List.nodup_range'
  refine (hsorted.and hdistinct).imp_of_mem fun {x y} hx hy hxy => ?_
  obtain ⟨hle, hne⟩ := hxy
  simp only [List.zipIdxLE] at hle
  split at hle
  · next hxy =>
    refine ⟨hxy, fun hyx => rel_of_mem_zipIdx h (hperm.mem_iff.mp hx) (hperm.mem_iff.mp hy) ?_⟩
    rw [if_pos hyx] at hle
    have hle := of_decide_eq_true hle
    omega
  · cases hle

end Sorting

/-! ## The order of channels -/

theorem Dict.get?_eq_some_iff {α : Type} {d : Dict α} {key : String} {a : α} :
    d.get? key = some a ↔ (key, a) ∈ d.entries := by
  rw [Dict.get?, Option.map_eq_some_iff]
  constructor
  · rintro ⟨e, he, rfl⟩
    obtain rfl : e.1 = key := by simpa using List.find?_some he
    exact List.mem_of_find?_eq_some he
  · intro hmem
    have hfound : (d.entries.find? (·.1 == key)).isSome :=
      List.find?_isSome.mpr ⟨_, hmem, beq_self_eq_true key⟩
    obtain ⟨e, he⟩ := Option.isSome_iff_exists.mp hfound
    have hkey : e.1 = key := by simpa using List.find?_some he
    have hsame : e = (key, a) := List.inj_on_of_nodup_map (Json.Ascending.nodup_names d.sorted)
      (List.mem_of_find?_eq_some he) hmem hkey
    exact ⟨e, he, by rw [hsame]⟩

theorem Text.isBlank_eq_false_iff {s : String} :
    isBlank s = false ↔ ∃ c ∈ s.toList, isBlankChar c = false := by
  simp [isBlank]

theorem SocialChannel.isLinkable_iff {channel : SocialChannel} : channel.isLinkable = true
    ↔ ∃ url, channel.url = some url ∧ ∃ c ∈ url.toList, Text.isBlankChar c = false := by
  simp only [isLinkable, Option.isSome_iff_exists, Text.nonBlank?_eq_some_iff,
    Text.isBlank_eq_false_iff]

namespace Branding

/-- One channel comes before another: its position is lower, or it is the same and the key is. -/
def Precedes (x y : String × SocialChannel) : Prop :=
  x.2.order.getD 0 < y.2.order.getD 0 ∨ (x.2.order.getD 0 = y.2.order.getD 0 ∧ x.1 < y.1)

/-- A channel of the branding that can be linked to and is not hidden. -/
structure Visible (b : Branding) (isVisible : String → Bool) (key : String)
    (channel : SocialChannel) : Prop where
  listed : ∃ channels, b.socialChannels = some channels ∧ channels.get? key = some channel
  linked : ∃ url, channel.url = some url ∧ ∃ c ∈ url.toList, Text.isBlankChar c = false
  visible : isVisible key = true

theorem Precedes.irrefl (x : String × SocialChannel) : ¬ Precedes x x := by
  rintro (hlt | ⟨-, hlt⟩)
  · exact Int64.lt_irrefl hlt
  · exact String.lt_irrefl _ hlt

theorem Precedes.asymm {x y : String × SocialChannel} (h : Precedes x y) : ¬ Precedes y x := by
  rintro (hlt | ⟨heq, hlt⟩)
  · rcases h with hlt' | ⟨heq', -⟩
    · exact Int64.lt_asymm hlt hlt'
    · exact Int64.lt_irrefl (heq' ▸ hlt)
  · rcases h with hlt' | ⟨-, hlt'⟩
    · exact Int64.lt_irrefl (heq ▸ hlt')
    · exact String.lt_irrefl _ (String.lt_trans hlt hlt')

theorem position_trans (x y z : String × SocialChannel)
    (hxy : decide (x.2.position ≤ y.2.position) = true)
    (hyz : decide (y.2.position ≤ z.2.position) = true) :
    decide (x.2.position ≤ z.2.position) = true := by
  rw [decide_eq_true_eq] at hxy hyz ⊢
  exact Int64.le_trans hxy hyz

theorem position_total (x y : String × SocialChannel) :
    (decide (x.2.position ≤ y.2.position) || decide (y.2.position ≤ x.2.position)) = true := by
  rw [Bool.or_eq_true, decide_eq_true_eq, decide_eq_true_eq]
  exact Int64.le_total x.2.position y.2.position

theorem visibleChannels_pairwise (b : Branding) (isVisible : String → Bool) :
    (b.visibleChannels isVisible).Pairwise Precedes := by
  unfold visibleChannels
  split
  · exact .nil
  · next channels _ =>
    refine (pairwise_mergeSort_ties position_trans position_total (channels.sorted.filter _)).imp ?_
    rintro x y ⟨hle, hties⟩
    have hle : x.2.position ≤ y.2.position := of_decide_eq_true hle
    by_cases hlt : x.2.position < y.2.position
    · exact .inl hlt
    · have hge : y.2.position ≤ x.2.position := Int64.not_lt.mp hlt
      exact .inr ⟨Int64.le_antisymm hle hge, hties (decide_eq_true hge)⟩

theorem mem_visibleChannels_iff {b : Branding} {isVisible : String → Bool} {key : String}
    {channel : SocialChannel} :
    (key, channel) ∈ b.visibleChannels isVisible ↔ Visible b isVisible key channel := by
  unfold visibleChannels
  split
  · next hnone =>
    refine iff_of_false List.not_mem_nil fun h => ?_
    obtain ⟨channels, hchannels, -⟩ := h.listed
    cases hnone.symm.trans hchannels
  · next channels hchannels =>
    rw [List.mem_mergeSort, List.mem_filter, Bool.and_eq_true, SocialChannel.isLinkable_iff,
      ← Dict.get?_eq_some_iff]
    constructor
    · rintro ⟨hget, hlinked, hvisible⟩
      exact ⟨⟨channels, hchannels, hget⟩, hlinked, hvisible⟩
    · rintro ⟨⟨channels', hchannels', hget⟩, hlinked, hvisible⟩
      cases hchannels.symm.trans hchannels'
      exact ⟨hget, hlinked, hvisible⟩

theorem nodup_of_precedes {shown : List (String × SocialChannel)} (h : shown.Pairwise Precedes) :
    shown.Nodup := by
  refine h.imp fun {x y} hxy => ?_
  rintro rfl
  exact Precedes.irrefl x hxy

theorem eq_of_precedes {shown shown' : List (String × SocialChannel)}
    (h : shown.Pairwise Precedes) (h' : shown'.Pairwise Precedes)
    (hmem : ∀ e, e ∈ shown ↔ e ∈ shown') :
    shown = shown' := by
  have hperm : shown.Perm shown' :=
    (List.perm_ext_iff_of_nodup (nodup_of_precedes h) (nodup_of_precedes h')).mpr hmem
  exact hperm.eq_of_pairwise (fun _ _ _ _ hxy hyx => absurd hyx hxy.asymm) h h'

/-- The visible channels in the order in which they are shown. -/
structure InOrder (b : Branding) (isVisible : String → Bool)
    (shown : List (String × SocialChannel)) : Prop where
  once : (shown.map Prod.fst).Nodup
  visible : ∀ key channel, (key, channel) ∈ shown ↔ Visible b isVisible key channel
  ascending : shown.Pairwise Precedes

theorem nodup_visibleKeys (b : Branding) (isVisible : String → Bool) :
    ((b.visibleChannels isVisible).map Prod.fst).Nodup := by
  have hnodup := nodup_of_precedes (visibleChannels_pairwise b isVisible)
  refine (List.nodup_map_iff_inj_on hnodup).mpr ?_
  rintro ⟨key, channel⟩ hx ⟨key', channel'⟩ hy (rfl : key = key')
  obtain ⟨channels, hchannels, hget⟩ := (mem_visibleChannels_iff.mp hx).listed
  obtain ⟨channels', hchannels', hget'⟩ := (mem_visibleChannels_iff.mp hy).listed
  cases hchannels.symm.trans hchannels'
  cases hget.symm.trans hget'
  rfl

theorem visibleChannels_inOrder (b : Branding) (isVisible : String → Bool) :
    InOrder b isVisible (b.visibleChannels isVisible) :=
  ⟨nodup_visibleKeys b isVisible, fun _ _ => mem_visibleChannels_iff,
    visibleChannels_pairwise b isVisible⟩

theorem inOrder_iff {b : Branding} {isVisible : String → Bool}
    {shown : List (String × SocialChannel)} :
    InOrder b isVisible shown ↔ shown = b.visibleChannels isVisible := by
  constructor
  · intro h
    have hown := visibleChannels_inOrder b isVisible
    refine eq_of_precedes h.ascending hown.ascending ?_
    rintro ⟨key, channel⟩
    rw [h.visible, hown.visible]
  · rintro rfl
    exact visibleChannels_inOrder b isVisible

theorem visibleChannels_eq_nil_iff {b : Branding} {isVisible : String → Bool} :
    b.visibleChannels isVisible = [] ↔ ∀ key channel, ¬ Visible b isVisible key channel := by
  rw [List.eq_nil_iff_forall_not_mem]
  constructor
  · intro h key channel hvisible
    exact h (key, channel) (mem_visibleChannels_iff.mpr hvisible)
  · rintro h ⟨key, channel⟩ hmem
    exact h key channel (mem_visibleChannels_iff.mp hmem)

end Branding

/-! ## How channels are written -/

theorem exists_mapM_of_perm {α β : Type} {f : α → Option β} {xs ys : List α} (h : xs.Perm ys)
    {read : List β} (hread : xs.mapM f = some read) :
    ∃ read', ys.mapM f = some read' ∧ read.Perm read' := by
  induction h generalizing read with
  | nil => exact ⟨read, hread, .refl _⟩
  | cons x _ ih =>
    rw [List.mapM_cons] at hread
    obtain ⟨b, hb, hread⟩ := Option.bind_eq_some_iff.mp hread
    obtain ⟨rest, hrest, hread⟩ := Option.bind_eq_some_iff.mp hread
    cases hread
    obtain ⟨rest', hrest', hperm⟩ := ih hrest
    refine ⟨b :: rest', ?_, hperm.cons b⟩
    rw [List.mapM_cons, hb, hrest']
    rfl
  | swap x y xs =>
    simp only [List.mapM_cons] at hread
    obtain ⟨c, hc, hread⟩ := Option.bind_eq_some_iff.mp hread
    obtain ⟨rest, hrest, hread⟩ := Option.bind_eq_some_iff.mp hread
    obtain ⟨b, hb, hrest⟩ := Option.bind_eq_some_iff.mp hrest
    obtain ⟨rest', hrest', hrest⟩ := Option.bind_eq_some_iff.mp hrest
    cases hrest
    cases hread
    refine ⟨b :: c :: rest', ?_, .swap _ _ _⟩
    simp only [List.mapM_cons, hb, hc, hrest']
    rfl
  | trans _ _ ih ih' =>
    obtain ⟨read', hread', hperm⟩ := ih hread
    obtain ⟨read'', hread'', hperm'⟩ := ih' hread'
    exact ⟨read'', hread'', hperm.trans hperm'⟩

theorem ofList_eq_of_perm {β : Type} {pairs pairs' : List (String × β)} (h : pairs.Perm pairs')
    (hnodup : (pairs.map (·.1)).Nodup) : Dict.ofList pairs' = Dict.ofList pairs :=
  Json.ofList_of_perm (h.symm.trans (Json.perm_ofList hnodup).symm)

section Reading

variable {α β : Type} {item : α → Option β} {a a' : α} {ms ms' : List (String × α)}

theorem names_of_mapM {read : List (String × β)}
    (h : ms.mapM (fun m => (item m.2).map fun b => (m.1, b)) = some read) :
    read.map (·.1) = ms.map (·.1) := by
  have hall := Json.forall₂_of_mapM h
  clear h
  induction hall with
  | nil => rfl
  | cons hm _ ih =>
    obtain ⟨b, -, rfl⟩ := Option.map_eq_some_iff.mp hm
    rw [List.map_cons, List.map_cons, ih]

variable [Source α]

theorem readDict_of_perm (hview : view a = .object ms true) (hview' : view a' = .object ms' true)
    (h : ms.Perm ms') (hnodup : (ms.map (·.1)).Nodup) {d : Dict β}
    (hread : readDict item a = some d) : readDict item a' = some d := by
  simp only [readDict, hview, hview'] at hread ⊢
  obtain ⟨read, hms, rfl⟩ := Option.map_eq_some_iff.mp hread
  obtain ⟨read', hms', hperm⟩ := exists_mapM_of_perm h hms
  rw [hms', Option.map_some, ofList_eq_of_perm hperm]
  rwa [names_of_mapM hms]

theorem readDict_eq_of_perm (hview : view a = .object ms true) (hview' : view a' = .object ms' true)
    (h : ms.Perm ms') (hnodup : (ms.map (·.1)).Nodup) : readDict item a = readDict item a' := by
  have hnodup' : (ms'.map (·.1)).Nodup := (h.map _).nodup_iff.mp hnodup
  ext d
  exact ⟨readDict_of_perm hview hview' h hnodup, readDict_of_perm hview' hview h.symm hnodup'⟩

/-- Two brandings that are the same but for the order in which their channels are written. -/
inductive Branding.ChannelsReordered (a a' : α) : Prop
  | members {x x' : α} {ms ms' : List (String × α)}
      (hexchange : Exchanged Branding.fields 5 x x' a a') (hview : view x = .object ms true)
      (hview' : view x' = .object ms' true) (h : ms.Perm ms') (hnodup : (ms.map (·.1)).Nodup)

theorem Branding.read_reordered (h : ChannelsReordered a a') : read a = read a' := by
  obtain @⟨x, x', ms, ms', hexchange, hview, hview', hperm, hnodup⟩ := h
  refine hexchange.recordsAlike.read_eq fun r r' halike => ?_
  have htext : ∀ i, i ≠ 5 → r.optional i Json.readString = r'.optional i Json.readString :=
    fun i hi => halike.optional_eq fun _ _ hinside => absurd hinside.1 hi
  have hchannels : r.optional 5 (readDict SocialChannel.read)
      = r'.optional 5 (readDict SocialChannel.read) := by
    refine halike.optional_eq ?_
    rintro y y' ⟨-, rfl, rfl⟩
    have hnull : Json.isNull y = Json.isNull y' := by rw [Json.isNull, Json.isNull, hview, hview']
    unfold readNullable
    rw [hnull, readDict_eq_of_perm hview hview' hperm hnodup]
  rw [htext 0 (by decide), htext 1 (by decide), htext 2 (by decide), htext 3 (by decide),
    htext 4 (by decide), hchannels]

end Reading

/-! ## Social links -/

namespace Render

open Html (Node printAll openingTag closingTag newline)

/-- The anchor for a channel with a key. -/
def anchor (e : String × SocialChannel) : String :=
  "<a href=\"" ++ e.2.url.getD "" ++ "\">" ++ e.2.label e.1 ++ "</a>"

/-- Anchors in their box, or nothing where there are none. -/
def anchors (shown : List (String × SocialChannel)) : String :=
  if shown = [] then ""
  else "<div class=\"social-links\">" ++ joinWith "" (shown.map anchor) ++ "</div>\n"

theorem print_channelLink (e : String × SocialChannel) :
    (channelLink e.1 e.2).print = anchor e := by
  have hopening : "<" ++ "a" ++ (" " ++ "href" ++ "=\"") = "<a href=\"" := by decide
  simp only [channelLink, Node.print, openingTag, closingTag, Html.printAttributes, anchor,
    Html.printAll_cons, Html.printAll_nil, ← hopening, String.append_assoc, String.append_empty]
  rfl

theorem blockHtml_socialLinks {b : Block} {links : SocialLinksBlock}
    (h : b.kind = .socialLinks links) (c : Context) (branding : Option Branding) :
    blockHtml b c branding = anchors (shownChannels links branding) := by
  have hopening : "<" ++ "div" ++ (" " ++ "class" ++ "=\"" ++ "social-links" ++ "\"") ++ ">"
      = "<div class=\"social-links\">" := by decide
  rw [blockHtml, h, fragment, socialFragment]
  cases shownChannels links branding with
  | nil => exact Html.printAll_nil
  | cons e shown =>
    have hlinks : printAll ((e :: shown).map fun e => channelLink e.1 e.2)
        = joinWith "" ((e :: shown).map anchor) := by
      rw [printAll_map]
      simp only [print_channelLink]
    simp only [anchors, reduceCtorEq, if_false, ← hlinks, ← hopening, classDiv, newline, Node.print,
      openingTag, closingTag, Html.printAttributes, Html.printAll_cons, Html.printAll_nil,
      String.append_assoc, String.append_empty]
    rfl

theorem anchors_eq_empty_iff {shown : List (String × SocialChannel)} :
    anchors shown = "" ↔ shown = [] := by
  unfold anchors
  split
  · next hnil => exact iff_of_true rfl hnil
  · next hne => exact iff_of_false (by simp) hne

/-- What is shown of the channels of a branding. -/
structure ShowsChannels (b : Branding) : Prop where
  inOrder : ∀ isVisible shown, b.InOrder isVisible shown ↔ shown = b.visibleChannels isVisible
  /-- The order in which a dictionary is written does not matter. -/
  written : ∀ written written' : List (String × SocialChannel), written.Perm written' →
    (written.map Prod.fst).Nodup → ∀ isVisible,
    { b with socialChannels := some (Dict.ofList written) }.visibleChannels isVisible
      = { b with socialChannels := some (Dict.ofList written') }.visibleChannels isVisible
  links : ∀ id order visibility c,
    blockHtml ⟨id, order, .socialLinks ⟨visibility⟩⟩ c (some b)
      = anchors (b.visibleChannels fun key => visibility.get? key != some false)
  empty : ∀ id order visibility c,
    blockHtml ⟨id, order, .socialLinks ⟨visibility⟩⟩ c (some b) = "" ↔
      ∀ key channel, ¬ b.Visible (fun key => visibility.get? key != some false) key channel

theorem blockHtml_visibleChannels (id : String) (order : Int64) (visibility : Dict Bool)
    (c : Context) (b : Branding) : blockHtml ⟨id, order, .socialLinks ⟨visibility⟩⟩ c (some b)
      = anchors (b.visibleChannels fun key => visibility.get? key != some false) :=
  blockHtml_socialLinks rfl c (some b)

theorem showsChannels (b : Branding) : ShowsChannels b where
  inOrder _ _ := Branding.inOrder_iff
  written _ _ h hnodup _ := by rw [ofList_eq_of_perm h hnodup]
  links id order visibility c := blockHtml_visibleChannels id order visibility c b
  empty id order visibility c := by
    rw [blockHtml_visibleChannels, anchors_eq_empty_iff, Branding.visibleChannels_eq_nil_iff]

/-- **Channels in order.**  The visible channels of a branding are shown in the one order that their
    positions and keys leave, however they are written, and as one anchor each; without a branding
    there is none. -/
theorem channels_in_order {α : Type} [Source α] :
    (∀ b, ShowsChannels b)
      ∧ (∀ a a' : α, Branding.ChannelsReordered a a' → Branding.read a = Branding.read a')
      ∧ ∀ id order links c, blockHtml ⟨id, order, .socialLinks links⟩ c none = "" :=
  ⟨showsChannels, fun _ _ => Branding.read_reordered,
    fun _ _ _ c => blockHtml_socialLinks rfl c none⟩

/-- Settings in which two channels have no position, and one channel is above them. -/
def tiedSettings (channels : List (String × Json.Value)) : Json.Value :=
  .object [("logo_url", .null), ("socialChannels", .object channels), ("phone", .string "1")]

def unplaced (url : String) : Json.Value := .object [("url", .string url)]

def tiedChannels : List (String × Json.Value) :=
  [ ("web", unplaced "w"),
    ("top", .object [("order", .number (.integer (-1))), ("url", .string "t")]),
    ("fax", unplaced " "), ("mail", unplaced "m") ]

/-- Ties go by key, whichever channel is written first, and a blank address is no channel. -/
theorem channels_in_order_tied :
    Branding.ChannelsReordered (tiedSettings tiedChannels) (tiedSettings tiedChannels.reverse)
      ∧ Branding.read (tiedSettings tiedChannels)
        = Branding.read (tiedSettings tiedChannels.reverse)
      ∧ (Branding.read (tiedSettings tiedChannels)).map
          (fun b => (b.visibleChannels fun _ => true).map Prod.fst)
        = some ["top", "mail", "web"] := by
  have hview (channels : List (String × Json.Value)) : view (tiedSettings channels)
      = .object ([("logo_url", .null)]
          ++ ("socialChannels", .object channels) :: [("phone", .string "1")]) true := rfl
  have hreordered : Branding.ChannelsReordered (tiedSettings tiedChannels)
      (tiedSettings tiedChannels.reverse) :=
    .members (.member (by decide) (hview _) (hview _)) rfl rfl (List.reverse_perm _).symm
      (by decide)
  have hread : Branding.read (tiedSettings tiedChannels)
      = some { phone := some "1", socialChannels := some (Dict.ofList
        [ ("mail", ⟨none, some "m", none⟩), ("top", ⟨none, some "t", some (-1)⟩),
          ("web", ⟨none, some "w", none⟩), ("fax", ⟨none, some " ", none⟩) ]) } := by
    decide +kernel
  refine ⟨hreordered, (channels_in_order (α := Json.Value)).2.1 _ _ hreordered, ?_⟩
  rw [hread, Option.map_some, Branding.visibleChannels]
  cbv

end Render

end BlockMail
