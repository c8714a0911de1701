import BlockMail.Proofs.Render.Body

/-! # The order of blocks

Of all rearrangements of a list of blocks, one is ascending in the order of the blocks and
keeps the positions of blocks of one order: both bodies of a message are made of it.  A list
that differs only in how blocks of different orders are mixed has the same rearrangement, so
the same message comes out; and where one list goes on with blocks of higher order, its
bodies go on with theirs.
-/

namespace BlockMail.Render

open Html (printAll printAll_append)

/-- The blocks in another arrangement, each with the position that it had: blocks of one
    order follow each other as they did. -/
structure Rearranges (placed : List (Block × Nat)) (blocks : List Block) : Prop where
  perm : placed.Perm blocks.zipIdx
  keeps_ties : placed.Pairwise fun x y => x.1.order = y.1.order → x.2 < y.2

/-- A rearrangement that is ascending in the order of the blocks. -/
structure Arranges (placed : List (Block × Nat)) (blocks : List Block) : Prop
    extends Rearranges placed blocks where
  ascending : (placed.map Prod.fst).Pairwise fun a b => a.order ≤ b.order

/-! ## The one arrangement -/

theorem Arranges.unique {placed other : List (Block × Nat)} {blocks : List Block}
    (h : Arranges placed blocks) (h' : Arranges other blocks) : other = placed := by
  have hsorted : ∀ {xs : List (Block × Nat)}, Arranges xs blocks →
      xs.Pairwise fun x y => x.1.order ≤ y.1.order ∧ (x.1.order = y.1.order → x.2 < y.2) :=
    fun hxs => (List.pairwise_map.mp hxs.ascending).and hxs.keeps_ties
  refine List.Perm.eq_of_pairwise ?_ (hsorted h') (hsorted h) (h'.perm.trans h.perm.symm)
  intro x y _ _ hxy hyx
  have horder := Int64.le_antisymm hxy.1 hyx.1
  have hbefore := hxy.2 horder
  have hbehind := hyx.2 horder.symm
  omega

theorem positions_ne {placed : List (Block × Nat)} {blocks : List Block}
    (h : placed.Perm blocks.zipIdx) : placed.Pairwise fun x y => x.2 ≠ y.2 := by
  refine List.pairwise_map.mp ((h.map Prod.snd).nodup_iff.mpr ?_)
  rw [List.zipIdx_map_snd]
  exact List.nodup_range'

/-- Sorting breaks ties by position, so what is sorted is arranged. -/
theorem exists_arranges (blocks : List Block) :
    ∃ placed, Arranges placed blocks ∧ inRenderOrder blocks = placed.map Prod.fst := by
  let le : Block → Block → Bool := fun a b => a.order ≤ b.order
  let placed := blocks.zipIdx.mergeSort (List.zipIdxLE le)
  have hperm : placed.Perm blocks.zipIdx := List.mergeSort_perm _ _
  have hfst : inRenderOrder blocks = placed.map Prod.fst := List.mergeSort_zipIdx.symm
  have hsorted := List.pairwise_mergeSort (List.zipIdxLE_trans order_trans)
    (List.zipIdxLE_total order_total) blocks.zipIdx
  refine ⟨placed, ⟨⟨hperm, ?_⟩, hfst ▸ inRenderOrder_ascending blocks⟩, hfst⟩
  refine (hsorted.and (positions_ne hperm)).imp ?_
  intro x y hxy horder
  obtain ⟨hle, hne⟩ := hxy
  simp [List.zipIdxLE, horder] at hle
  omega

/-! ## Blocks of one order -/

/-- The blocks of an order, as they follow each other. -/
def ofOrder (n : Int64) (blocks : List Block) : List Block := blocks.filter fun b => b.order = n

theorem ofOrder_append (n : Int64) (as bs : List Block) :
    ofOrder n (as ++ bs) = ofOrder n as ++ ofOrder n bs := List.filter_append as bs

theorem mem_ofOrder_iff {n : Int64} {b : Block} {blocks : List Block} :
    b ∈ ofOrder n blocks ↔ b ∈ blocks ∧ b.order = n := by
  unfold ofOrder
  rw [List.mem_filter, decide_eq_true_eq]

theorem Rearranges.ofOrder_eq {placed : List (Block × Nat)} {blocks : List Block}
    (h : Rearranges placed blocks) (n : Int64) :
    ofOrder n (placed.map Prod.fst) = ofOrder n blocks := by
  let test : Block × Nat → Bool := fun x => x.1.order = n
  have hzip : blocks.zipIdx.Pairwise fun x y => x.2 < y.2 := by
    refine List.pairwise_map.mp ?_
    rw [List.zipIdx_map_snd]
    exact List.pairwise_lt_range'
  have hplaced : (placed.filter test).Pairwise fun x y => x.2 < y.2 := by
    rw [List.pairwise_filter]
    refine h.keeps_ties.imp fun htie hx hy => htie ?_
    exact (of_decide_eq_true hx).trans (of_decide_eq_true hy).symm
  -- both lists hold the same blocks of order `n`, in ascending positions
  have heq : placed.filter test = blocks.zipIdx.filter test := by
    refine List.Perm.eq_of_pairwise ?_ hplaced (hzip.filter _) (h.perm.filter test)
    intro x y _ _ hxy hyx
    omega
  have hfst : ∀ xs : List (Block × Nat),
      ofOrder n (xs.map Prod.fst) = (xs.filter test).map Prod.fst :=
    fun xs => List.filter_map
  rw [hfst, heq, ← hfst, List.zipIdx_map_fst]

theorem inRenderOrder_ofOrder (n : Int64) (blocks : List Block) :
    ofOrder n (inRenderOrder blocks) = ofOrder n blocks := by
  obtain ⟨placed, h, hfst⟩ := exists_arranges blocks
  rw [hfst, h.ofOrder_eq]

theorem mem_iff_of_ofOrder_eq {as bs : List Block} (h : ∀ n, ofOrder n as = ofOrder n bs)
    (b : Block) : b ∈ as ↔ b ∈ bs := by
  have hmem : b ∈ ofOrder b.order as ↔ b ∈ ofOrder b.order bs := by rw [h]
  simpa [mem_ofOrder_iff] using hmem

theorem head_le {a b : Block} {as bs : List Block} (hb : ∀ x ∈ bs, b.order ≤ x.order)
    (h : ∀ n, ofOrder n (a :: as) = ofOrder n (b :: bs)) : b.order ≤ a.order := by
  cases (mem_iff_of_ofOrder_eq h a).mp (.head _) with
  | head => exact Int64.le_refl _
  | tail _ hin => exact hb a hin

/-- A list in ascending order is determined by its blocks of each order. -/
theorem eq_of_ofOrder_eq {as bs : List Block} (ha : as.Pairwise fun a b => a.order ≤ b.order)
    (hb : bs.Pairwise fun a b => a.order ≤ b.order) (h : ∀ n, ofOrder n as = ofOrder n bs) :
    as = bs := by
  induction as generalizing bs with
  | nil =>
    cases bs with
    | nil => rfl
    | cons b bs => exact absurd ((mem_iff_of_ofOrder_eq h b).mpr (.head _)) List.not_mem_nil
  | cons a as ih =>
    cases bs with
    | nil => exact absurd ((mem_iff_of_ofOrder_eq h a).mp (.head _)) List.not_mem_nil
    | cons b bs =>
      obtain ⟨hfirst, has⟩ := List.pairwise_cons.mp ha
      obtain ⟨hfirst', hbs⟩ := List.pairwise_cons.mp hb
      have horder : a.order = b.order :=
        Int64.le_antisymm (head_le hfirst fun n => (h n).symm) (head_le hfirst' h)
      have hsame := h a.order
      simp only [ofOrder, List.filter_cons, horder, decide_true, if_true] at hsame
      obtain ⟨rfl, -⟩ := List.cons.inj hsame
      refine congrArg (a :: ·) (ih has hbs fun n => ?_)
      have hn := h n
      unfold ofOrder at hn ⊢
      rw [List.filter_cons, List.filter_cons] at hn
      split at hn
      · exact (List.cons.inj hn).2
      · exact hn

theorem Rearranges.inRenderOrder_eq {placed : List (Block × Nat)} {blocks : List Block}
    (h : Rearranges placed blocks) :
    inRenderOrder (placed.map Prod.fst) = inRenderOrder blocks := by
  refine eq_of_ofOrder_eq (inRenderOrder_ascending _) (inRenderOrder_ascending _) fun n => ?_
  rw [inRenderOrder_ofOrder, inRenderOrder_ofOrder, h.ofOrder_eq]

theorem inRenderOrder_append {as bs : List Block} (h : ∀ a ∈ as, ∀ b ∈ bs, a.order ≤ b.order) :
    inRenderOrder (as ++ bs) = inRenderOrder as ++ inRenderOrder bs := by
  refine eq_of_ofOrder_eq (inRenderOrder_ascending _) ?_ fun n => ?_
  · refine List.pairwise_append.mpr
      ⟨inRenderOrder_ascending as, inRenderOrder_ascending bs, fun a ha b hb => ?_⟩
    exact h a ((inRenderOrder_perm as).mem_iff.mp ha) b ((inRenderOrder_perm bs).mem_iff.mp hb)
  · rw [inRenderOrder_ofOrder, ofOrder_append, ofOrder_append, inRenderOrder_ofOrder,
      inRenderOrder_ofOrder]

/-! ## One text behind another -/

/-- Two texts with a blank line between them, or the one that is not empty. -/
def textsJoined (s t : String) : String :=
  if s = "" then t else if t = "" then s else s ++ "\n\n" ++ t

theorem joinWith_append (separator : String) {ss ts : List String} (hs : ss ≠ []) (ht : ts ≠ []) :
    joinWith separator (ss ++ ts)
      = joinWith separator ss ++ separator ++ joinWith separator ts := by
  induction ss with
  | nil => exact absurd rfl hs
  | cons s ss ih =>
    cases ss with
    | nil =>
      obtain ⟨t, rest, rfl⟩ := List.exists_cons_of_ne_nil ht
      rfl
    | cons s' ss =>
      have htail := ih (by simp)
      rw [List.cons_append, List.cons_append, joinWith_cons_cons, joinWith_cons_cons]
      rw [List.cons_append] at htail
      rw [htail]
      simp only [String.append_assoc]

theorem joinWith_eq_empty_iff (separator : String) {ss : List String} (h : "" ∉ ss) :
    joinWith separator ss = "" ↔ ss = [] := by
  cases ss with
  | nil => simp [joinWith]
  | cons s ss =>
    have hs : s ≠ "" := fun hs => h (hs ▸ .head _)
    cases ss with
    | nil => simpa [joinWith] using hs
    | cons s' ss => simp [joinWith_cons_cons, hs]

theorem empty_notMem_textParts (blocks : List Block) (c : Context) (branding : Option Branding) :
    "" ∉ textParts blocks c branding := by
  unfold textParts
  simp

theorem plainText_append {as bs : List Block} (c : Context) (branding : Option Branding)
    (h : ∀ a ∈ as, ∀ b ∈ bs, a.order ≤ b.order) :
    plainText (as ++ bs) c branding
      = textsJoined (plainText as c branding) (plainText bs c branding) := by
  have hparts : textParts (inRenderOrder as ++ inRenderOrder bs) c branding
      = textParts (inRenderOrder as) c branding ++ textParts (inRenderOrder bs) c branding := by
    simp [textParts]
  have hemptyA := joinWith_eq_empty_iff "\n\n"
    (empty_notMem_textParts (inRenderOrder as) c branding)
  have hemptyB := joinWith_eq_empty_iff "\n\n"
    (empty_notMem_textParts (inRenderOrder bs) c branding)
  rw [plainText_eq, plainText_eq, plainText_eq, inRenderOrder_append h, hparts]
  unfold textsJoined
  by_cases ha : textParts (inRenderOrder as) c branding = []
  · rw [if_pos (hemptyA.mpr ha), ha, List.nil_append]
  · rw [if_neg (mt hemptyA.mp ha)]
    by_cases hb : textParts (inRenderOrder bs) c branding = []
    · rw [if_pos (hemptyB.mpr hb), hb, List.append_nil]
    · rw [if_neg (mt hemptyB.mp hb), joinWith_append _ ha hb]

theorem blockArea_append {as bs : List Block} (c : Context) (branding : Option Branding)
    (h : ∀ a ∈ as, ∀ b ∈ bs, a.order ≤ b.order) :
    blockArea (as ++ bs) c branding = blockArea as c branding ++ blockArea bs c branding := by
  unfold blockArea
  rw [inRenderOrder_append h, List.flatMap_append]

/-! ## Both bodies -/

theorem Rearranges.render_eq {placed : List (Block × Nat)} {blocks : List Block}
    (h : Rearranges placed blocks) (d : Document) (o : Options) :
    render { d with blocks := placed.map Prod.fst } o = render { d with blocks } o := by
  have harea : ∀ c branding,
      blockArea (placed.map Prod.fst) c branding = blockArea blocks c branding := by
    intro c branding
    unfold blockArea
    rw [h.inRenderOrder_eq]
  have htext : ∀ c branding,
      plainText (placed.map Prod.fst) c branding = plainText blocks c branding := by
    intro c branding
    rw [plainText_eq, plainText_eq, h.inRenderOrder_eq]
  unfold render documentPage
  simp only [harea, htext]

/-- **Render order.**  Both bodies of a message are made of one arrangement of its blocks, the
    only one that is ascending and keeps ties.  So the message stays the same when blocks of
    different orders are mixed in another way, and blocks of higher orders come behind. -/
theorem render_order (d : Document) (o : Options) :
    ∃ opening closing,
      (∀ blocks : List Block, ∃ placed,
        Arranges placed blocks
        ∧ (∀ other, Arranges other blocks → other = placed)
        ∧ (render { d with blocks } o).html
            = opening ++ printAll (blockArea blocks d.data d.branding) ++ closing
        ∧ printAll (blockArea blocks d.data d.branding)
            = joinWith "" ((placed.map Prod.fst).map fun b => blockHtml b d.data d.branding)
        ∧ (render { d with blocks } o).text
            = joinWith "\n\n" (textParts (placed.map Prod.fst) d.data d.branding))
      ∧ (∀ (blocks : List Block) (placed : List (Block × Nat)), Rearranges placed blocks →
          render { d with blocks := placed.map Prod.fst } o = render { d with blocks } o)
      ∧ ∀ as bs : List Block, (∀ a ∈ as, ∀ b ∈ bs, a.order ≤ b.order) →
          printAll (blockArea (as ++ bs) d.data d.branding)
            = printAll (blockArea as d.data d.branding) ++ printAll (blockArea bs d.data d.branding)
          ∧ (render { d with blocks := as ++ bs } o).text
            = textsJoined (render { d with blocks := as } o).text
                (render { d with blocks := bs } o).text := by
  obtain ⟨opening, closing, hpage⟩ := page_encloses (Placeholder.resolve d.subject d.data)
    (Placeholder.resolve? d.preheader d.data) o
  refine ⟨opening, closing, fun blocks => ?_, fun blocks placed h => h.render_eq d o,
    fun as bs h => ⟨?_, plainText_append d.data d.branding h⟩⟩
  · obtain ⟨placed, h, hfst⟩ := exists_arranges blocks
    refine ⟨placed, h, fun other h' => h.unique h', hpage _, ?_, ?_⟩
    · rw [printAll_blockArea, hfst]
    · rw [← hfst]
      exact plainText_eq blocks d.data d.branding
  · rw [blockArea_append d.data d.branding h, printAll_append]

def goodbye : Block := ⟨"goodbye", 2, .footer { customText := some "Bye" }⟩

def greeting : Block := ⟨"greeting", 1, .text { content := "Hello" }⟩

def gap : Block := ⟨"gap", 2, .divider {}⟩

theorem render_order_greeting :
    Rearranges [(greeting, 1), (goodbye, 0), (gap, 2)] [goodbye, greeting, gap]
      ∧ ∀ (d : Document) (o : Options), render { d with blocks := [greeting, goodbye, gap] } o
        = render { d with blocks := [goodbye, greeting, gap] } o := by
  have h : Rearranges [(greeting, 1), (goodbye, 0), (gap, 2)] [goodbye, greeting, gap] :=
    ⟨.swap _ _ _, by simp [greeting, goodbye, gap]⟩
  refine ⟨h, fun d o => ?_⟩
  obtain ⟨_, _, -, hrearranges, -⟩ := render_order d o
  simpa only [List.map_cons, List.map_nil] using hrearranges _ _ h

end BlockMail.Render
