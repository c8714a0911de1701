import BlockMail.Proofs.Render.Order
import BlockMail.Proofs.Text.Inked
import Mathlib.Data.List.Forall2
import Mathlib.Data.List.TakeWhile

/-! # What each body depends on

Each body is made of one text per block, put in the order of the blocks (`map_inRenderOrder`), and
the plain text leaves out the blocks that say nothing (`inRenderOrder_filter`).  So it is enough to
know what a block contributes: a change that leaves the contributions and their orders as they are
leaves the body as it is.

The plain text is a matter of what is said and by whom (`SaysTheSame`).  The page is a matter of
everything but the titles of headers and the ids, and a block that is inserted shows up as its
fragment and in no other way.
-/

namespace BlockMail.Render

open Placeholder (resolve)

/-! ## One text per block -/

/-- A list of texts with their places, in ascending order of the places. -/
def inPlace (texts : List (Int64 × String)) : List String :=
  (texts.mergeSort fun x y => x.1 ≤ y.1).map Prod.snd

/-- What is made of each block, with the block's place. -/
def withOrder (form : Block → String) (blocks : List Block) : List (Int64 × String) :=
  blocks.map fun b => (b.order, form b)

theorem map_inRenderOrder (form : Block → String) (blocks : List Block) :
    (inRenderOrder blocks).map form = inPlace (withOrder form blocks) := by
  have hsort : (inRenderOrder blocks).map (fun b => (b.order, form b))
      = (withOrder form blocks).mergeSort fun x y => x.1 ≤ y.1 :=
    List.map_mergeSort fun _ _ _ _ => rfl
  unfold inPlace
  rw [← hsort, List.map_map]
  rfl

theorem inRenderOrder_filter (p : Block → Bool) (blocks : List Block) :
    inRenderOrder (blocks.filter p) = (inRenderOrder blocks).filter p := by
  have hfilter : ∀ n (xs : List Block), ofOrder n (xs.filter p) = (ofOrder n xs).filter p := by
    intro n xs
    unfold ofOrder
    rw [List.filter_filter, List.filter_filter]
    exact List.filter_congr fun b _ => Bool.and_comm _ _
  refine eq_of_ofOrder_eq (inRenderOrder_ascending _) ((inRenderOrder_ascending _).filter p)
    fun n => ?_
  rw [inRenderOrder_ofOrder, hfilter, hfilter, inRenderOrder_ofOrder]

/-! ## What a block says -/

/-- A block adds nothing to the plain text: it has no text form, or a blank one. -/
def Silent (c : Context) (branding : Option Branding) (kind : BlockKind) : Prop :=
  ∀ s ∈ textForm? kind c branding, Text.isBlank s = true

/-- What a block adds to the plain text. -/
def said (c : Context) (branding : Option Branding) (b : Block) : String :=
  Text.trim ((textForm? b.kind c branding).getD "")

/-- What the blocks add, with their places. -/
def sayings (c : Context) (branding : Option Branding) (blocks : List Block) :
    List (Int64 × String) :=
  withOrder (said c branding) (blocks.filter fun b => said c branding b != "")

theorem textParts_eq (blocks : List Block) (c : Context) (branding : Option Branding) :
    textParts blocks c branding
      = (blocks.filter fun b => said c branding b != "").map (said c branding) := by
  induction blocks with
  | nil => rfl
  | cons b blocks ih =>
    unfold textParts at ih ⊢
    cases hform : textForm? b.kind c branding with
    | none =>
      have hsaid : said c branding b = "" := by
        unfold said
        rw [hform]
        rfl
      rw [List.filterMap_cons_none (by exact hform), ih, List.filter_cons_of_neg (by simp [hsaid])]
    | some s =>
      have hsaid : said c branding b = Text.trim s := by
        unfold said
        rw [hform]
        rfl
      rw [List.filterMap_cons_some (by exact hform), List.map_cons, List.filter_cons,
        List.filter_cons, ih, hsaid]
      split
      · rw [List.map_cons, hsaid]
      · rfl

theorem plainText_eq_sayings (blocks : List Block) (c : Context) (branding : Option Branding) :
    plainText blocks c branding = joinWith "\n\n" (inPlace (sayings c branding blocks)) := by
  rw [plainText_eq, textParts_eq, ← inRenderOrder_filter, map_inRenderOrder]
  rfl

theorem Silent.said_eq {c : Context} {branding : Option Branding} {b : Block}
    (h : Silent c branding b.kind) : said c branding b = "" := by
  unfold said
  cases hform : textForm? b.kind c branding with
  | none => rfl
  | some s => exact Text.trim_eq_empty_iff.mpr (h s hform)

/-! ## Blocks that say nothing -/

theorem bulletLines_of_isBlank {s : String} (h : Text.isBlank s = true) :
    Text.bulletLines s = [] := by
  have hlines : Text.bulletLines s = (Text.inked (Text.lines s.toList)).map String.ofList := rfl
  have hnothing : Text.trimChars s.toList = [] :=
    Text.trimChars_eq_nil_iff.mpr (List.all_eq_true.mp h)
  rw [hlines, Text.inked_lines, ← Text.inked_pieces_trimChars, hnothing]
  rfl

theorem silent_text {b : TextBlock} {c : Context} (branding : Option Branding)
    (h : Text.isBlank (resolve b.content c) = true) : Silent c branding (.text b) := by
  intro s hs
  obtain rfl := Option.mem_some.mp hs
  simp only [textForm, bulletLines_of_isBlank h]
  split
  · rfl
  · exact h

theorem silent_header {b : HeaderBlock} {c : Context} (branding : Option Branding)
    (htitle : headerTitle? b c = none) (htagline : headerTagline? b c = none) :
    Silent c branding (.header b) := by
  have hform : textForm? (.header b) c branding = none := by
    simp [textForm?, headerForm?, headerLines, htitle, htagline]
  intro s hs
  cases hform.symm.trans hs

/-! ## Changes that the plain text does not show -/

/-- A change of a block that changes nothing that it says. -/
inductive SameWords : BlockKind → BlockKind → Prop
  | refl (kind : BlockKind) : SameWords kind kind
  | text (content : String) {f f' : TextFormatting} (hbullets : f'.bullets = f.bullets) :
      SameWords (.text ⟨content, f⟩) (.text ⟨content, f'⟩)
  | header (b : HeaderBlock) (showLogo : Bool) (backgroundColor : Option String) :
      SameWords (.header b) (.header { b with showLogo, backgroundColor })
  | cta (b : CtaBlock) (variant : Option CtaVariant) :
      SameWords (.cta b) (.cta { b with variant })
  | footer (b : FooterBlock) (showLogo : Bool) :
      SameWords (.footer b) (.footer { b with showLogo })

/-- The same name, phone number and e-mail address. -/
structure SameContact (branding branding' : Option Branding) : Prop where
  businessName : branding'.bind (·.businessName) = branding.bind (·.businessName)
  phone : branding'.bind (·.phone) = branding.bind (·.phone)
  email : branding'.bind (·.email) = branding.bind (·.email)

/-- The blocks are changed but for what they say: those that say nothing come and go. -/
inductive SameSayings (c : Context) (branding : Option Branding) :
    List Block → List Block → Prop
  | nil : SameSayings c branding [] []
  | keep {blocks blocks' : List Block} {kind kind' : BlockKind} (id id' : String) (order : Int64)
      (hkind : SameWords kind kind') (hrest : SameSayings c branding blocks blocks') :
      SameSayings c branding (⟨id, order, kind⟩ :: blocks) (⟨id', order, kind'⟩ :: blocks')
  | insert {blocks blocks' : List Block} {b : Block} (hsilent : Silent c branding b.kind)
      (hrest : SameSayings c branding blocks blocks') :
      SameSayings c branding blocks (b :: blocks')
  | remove {blocks blocks' : List Block} {b : Block} (hsilent : Silent c branding b.kind)
      (hrest : SameSayings c branding blocks blocks') :
      SameSayings c branding (b :: blocks) blocks'

variable {c : Context} {branding branding' : Option Branding}

theorem SameWords.textForm?_eq {kind kind' : BlockKind} (h : SameWords kind kind') :
    textForm? kind' c branding = textForm? kind c branding := by
  cases h with
  | text content hbullets =>
    simp only [textForm?, textForm, hbullets]
  | _ => rfl

theorem SameContact.textForm?_eq (h : SameContact branding branding') (kind : BlockKind) :
    textForm? kind c branding' = textForm? kind c branding := by
  cases kind with
  | footer b =>
    unfold textForm? footerForm footerIdentity branded?
    rw [h.businessName, h.phone, h.email]
  | _ => rfl

theorem SameSayings.sayings_eq {blocks blocks' : List Block}
    (h : SameSayings c branding blocks blocks') :
    sayings c branding blocks' = sayings c branding blocks := by
  have hsilent : ∀ {b : Block} (blocks : List Block), Silent c branding b.kind →
      sayings c branding (b :: blocks) = sayings c branding blocks := by
    intro b blocks hb
    unfold sayings
    rw [List.filter_cons_of_neg (by simp [hb.said_eq])]
  induction h with
  | nil => rfl
  | @keep blocks blocks' kind kind' id id' order hkind hrest ih =>
    have hsaid : said c branding ⟨id', order, kind'⟩ = said c branding ⟨id, order, kind⟩ :=
      congrArg (fun form => Text.trim (Option.getD form "")) hkind.textForm?_eq
    unfold sayings withOrder at ih ⊢
    rw [List.filter_cons, List.filter_cons, hsaid]
    split
    · rw [List.map_cons, List.map_cons, hsaid, ih]
    · exact ih
  | insert hb _ ih => rw [hsilent _ hb, ih]
  | remove hb _ ih => rw [hsilent _ hb, ih]

theorem SameContact.plainText_eq (h : SameContact branding branding') (blocks : List Block) :
    plainText blocks c branding' = plainText blocks c branding := by
  unfold plainText
  simp only [h.textForm?_eq]

/-- A document that says the same as another one.  The subject and the preheader do not count: the
    plain text has none. -/
structure SaysTheSame (d d' : Document) : Prop where
  data : d'.data = d.data
  contact : SameContact d.branding d'.branding
  blocks : SameSayings d.data d.branding d.blocks d'.blocks

theorem SaysTheSame.plainText_eq {d d' : Document} (h : SaysTheSame d d') :
    plainText d'.blocks d'.data d'.branding = plainText d.blocks d.data d.branding := by
  rw [h.data, h.contact.plainText_eq, plainText_eq_sayings, plainText_eq_sayings,
    h.blocks.sayings_eq]

/-! ## The page -/

/-- A change of a block that does not show on the page. -/
inductive SameLook : BlockKind → BlockKind → Prop
  | refl (kind : BlockKind) : SameLook kind kind
  | header (b : HeaderBlock) (title : Option String) :
      SameLook (.header b) (.header { b with title })

/-- Nothing that shows of the block is changed. -/
structure ShownAlike (b b' : Block) : Prop where
  order : b'.order = b.order
  look : SameLook b.kind b'.kind

theorem ShownAlike.blockHtml_eq {b b' : Block} (h : ShownAlike b b') :
    blockHtml b' c branding = blockHtml b c branding := by
  obtain ⟨id, order, kind⟩ := b
  obtain ⟨id', order', kind'⟩ := b'
  cases h.look <;> rfl

theorem printAll_blockArea_eq (blocks : List Block) (c : Context) (branding : Option Branding) :
    Html.printAll (blockArea blocks c branding)
      = joinWith "" (inPlace (withOrder (fun b => blockHtml b c branding) blocks)) := by
  rw [printAll_blockArea, map_inRenderOrder]

theorem withOrder_congr {form : Block → String} {blocks blocks' : List Block}
    (h : List.Forall₂ (fun b b' => b'.order = b.order ∧ form b' = form b) blocks blocks') :
    withOrder form blocks' = withOrder form blocks := by
  induction h with
  | nil => rfl
  | cons hb _ ih =>
    unfold withOrder at ih ⊢
    rw [List.map_cons, List.map_cons, hb.1, hb.2, ih]

/-! ## A block more -/

theorem ofOrder_filter (m : Int64) (q : Int64 → Bool) (blocks : List Block) :
    ofOrder m (blocks.filter fun b => q b.order) = if q m then ofOrder m blocks else [] := by
  unfold ofOrder
  rw [List.filter_filter]
  split
  · next hq =>
    refine List.filter_congr fun b _ => ?_
    by_cases hb : b.order = m <;> simp [hb, hq]
  · next hq =>
    refine List.filter_eq_nil_iff.mpr fun b _ hb => hq ?_
    simp at hb
    exact hb.1 ▸ hb.2

/-- The blocks that come before one of an order that stands between two lists. -/
def blocksBefore (n : Int64) (as bs : List Block) : List Block :=
  inRenderOrder
    ((as.filter fun a => decide (a.order ≤ n)) ++ bs.filter fun b => decide (b.order < n))

/-- The blocks that come behind it. -/
def blocksBehind (n : Int64) (as bs : List Block) : List Block :=
  inRenderOrder
    ((as.filter fun a => decide (n < a.order)) ++ bs.filter fun b => decide (n ≤ b.order))

theorem order_le_of_mem_blocksBefore {n : Int64} {as bs : List Block} {b : Block}
    (h : b ∈ blocksBefore n as bs) : b.order ≤ n := by
  have hmem := (inRenderOrder_perm _).mem_iff.mp h
  simp only [List.mem_append, List.mem_filter, decide_eq_true_eq] at hmem
  rcases hmem with ⟨-, hle⟩ | ⟨-, hlt⟩
  · exact hle
  · exact Int64.le_of_lt hlt

theorem le_order_of_mem_blocksBehind {n : Int64} {as bs : List Block} {b : Block}
    (h : b ∈ blocksBehind n as bs) : n ≤ b.order := by
  have hmem := (inRenderOrder_perm _).mem_iff.mp h
  simp only [List.mem_append, List.mem_filter, decide_eq_true_eq] at hmem
  rcases hmem with ⟨-, hlt⟩ | ⟨-, hle⟩
  · exact Int64.le_of_lt hlt
  · exact hle

/-- Whatever stands between two lists of blocks, if it is of one order it comes to stand between
    the same blocks. -/
theorem inRenderOrder_between {n : Int64} (as : List Block) {xs : List Block} (bs : List Block)
    (hxs : ∀ x ∈ xs, x.order = n) :
    inRenderOrder (as ++ xs ++ bs) = blocksBefore n as bs ++ xs ++ blocksBehind n as bs := by
  have hascending : xs.Pairwise fun a b => a.order ≤ b.order :=
    List.pairwise_of_forall_mem_list fun a ha b hb =>
      Int64.le_of_eq ((hxs a ha).trans (hxs b hb).symm)
  refine eq_of_ofOrder_eq (inRenderOrder_ascending _) ?_ fun m => ?_
  · refine List.pairwise_append.mpr ⟨List.pairwise_append.mpr ⟨inRenderOrder_ascending _,
      hascending, fun a ha x hx => ?_⟩, inRenderOrder_ascending _, fun a ha b hb => ?_⟩
    · exact Int64.le_trans (order_le_of_mem_blocksBefore ha) (Int64.le_of_eq (hxs x hx).symm)
    · refine Int64.le_trans ?_ (le_order_of_mem_blocksBehind hb)
      rcases List.mem_append.mp ha with ha | ha
      · exact order_le_of_mem_blocksBefore ha
      · exact Int64.le_of_eq (hxs a ha)
  · unfold blocksBefore blocksBehind
    simp only [inRenderOrder_ofOrder, ofOrder_append]
    rw [ofOrder_filter m (· ≤ n) as, ofOrder_filter m (· < n) bs, ofOrder_filter m (n < ·) as,
      ofOrder_filter m (n ≤ ·) bs]
    by_cases hm : m = n
    · subst hm
      simp [Int64.lt_irrefl]
    · have hnone : ofOrder m xs = [] := List.filter_eq_nil_iff.mpr fun x hx hxm =>
        hm ((of_decide_eq_true hxm).symm.trans (hxs x hx))
      rw [hnone]
      by_cases hle : m ≤ n
      · have hlt : m < n := Int64.lt_of_le_of_ne hle hm
        simp [hle, hlt, Int64.not_lt.mpr hle, Int64.not_le.mpr hlt]
      · have hlt : n < m := Int64.not_le.mp hle
        simp [hle, hlt, Int64.not_lt.mpr (Int64.le_of_lt hlt), Int64.le_of_lt hlt]

theorem blockArea_between {n : Int64} (as : List Block) {xs : List Block} (bs : List Block)
    (hxs : ∀ x ∈ xs, x.order = n) (c : Context) (branding : Option Branding) :
    Html.printAll (blockArea (as ++ xs ++ bs) c branding)
      = Html.printAll ((blocksBefore n as bs).flatMap fun b => fragment b.kind c branding)
        ++ Html.printAll (xs.flatMap fun b => fragment b.kind c branding)
        ++ Html.printAll ((blocksBehind n as bs).flatMap fun b => fragment b.kind c branding) := by
  unfold blockArea
  rw [inRenderOrder_between as bs hxs, List.flatMap_append, List.flatMap_append,
    Html.printAll_append, Html.printAll_append]

/-! ## Both bodies -/

theorem html_eq_of_shownAlike {d : Document} {blocks : List Block} (o : Options)
    (h : List.Forall₂ ShownAlike d.blocks blocks) :
    (render { d with blocks } o).html = (render d o).html := by
  obtain ⟨opening, closing, hpage⟩ := page_encloses (resolve d.subject d.data)
    (Placeholder.resolve? d.preheader d.data) o
  have hforms := withOrder_congr (h.imp fun b b' hb =>
    (⟨hb.order, hb.blockHtml_eq⟩ : b'.order = b.order
      ∧ blockHtml b' d.data d.branding = blockHtml b d.data d.branding))
  refine (hpage _).trans (Eq.trans ?_ (hpage _).symm)
  rw [printAll_blockArea_eq, printAll_blockArea_eq, hforms]

theorem exists_html_insert (d : Document) (o : Options) (n : Int64) (as bs : List Block) :
    ∃ opening closing, (render { d with blocks := as ++ bs } o).html = opening ++ closing
      ∧ ∀ b : Block, b.order = n → (render { d with blocks := as ++ b :: bs } o).html
        = opening ++ blockHtml b d.data d.branding ++ closing := by
  obtain ⟨opening, closing, hpage⟩ := page_encloses (resolve d.subject d.data)
    (Placeholder.resolve? d.preheader d.data) o
  let html (blocks : List Block) : String :=
    Html.printAll (blocks.flatMap fun b => fragment b.kind d.data d.branding)
  -- what is put in lies behind the blocks up to its order and before those above it, whatever it is
  have hbetween : ∀ xs : List Block, (∀ x ∈ xs, x.order = n) →
      (render { d with blocks := as ++ xs ++ bs } o).html
        = opening ++ html (blocksBefore n as bs) ++ html xs
          ++ (html (blocksBehind n as bs) ++ closing) := by
    intro xs hxs
    have harea := blockArea_between as bs hxs d.data d.branding
    refine (hpage _).trans ?_
    rw [harea]
    simp only [html, String.append_assoc]
  refine ⟨opening ++ html (blocksBefore n as bs), html (blocksBehind n as bs) ++ closing, ?_,
    fun b hb => ?_⟩
  · have hnone := hbetween [] (by simp)
    have hempty : html [] = "" := rfl
    rwa [List.append_nil, hempty, String.append_empty] at hnone
  · have hone := hbetween [b] (by simpa using hb)
    have hfragment : html [b] = blockHtml b d.data d.branding := by
      simp only [html, List.flatMap_singleton]
      rfl
    rwa [List.append_assoc, List.singleton_append, hfragment] at hone

/-- **What a body depends on.**  Documents that say the same have the same plain text, whatever the
    options; pictures, dividers, social links, markup, headers without title and tagline and blank
    texts say nothing.  The page is the same whatever the ids and the titles of headers, and a
    block that is inserted adds its fragment, between two parts that the block has no part in. -/
theorem format_dependence :
    (∀ (d d' : Document) (o o' : Options), SaysTheSame d d' →
        (render d' o').text = (render d o).text)
    ∧ (∀ (c : Context) (branding : Option Branding),
        (∀ b, Silent c branding (.image b)) ∧ (∀ b, Silent c branding (.divider b))
          ∧ (∀ b, Silent c branding (.socialLinks b)) ∧ (∀ b, Silent c branding (.rawHtml b))
          ∧ (∀ b, headerTitle? b c = none → headerTagline? b c = none →
            Silent c branding (.header b))
          ∧ ∀ b : TextBlock, Text.isBlank (resolve b.content c) = true →
            Silent c branding (.text b))
    ∧ (∀ (d : Document) (blocks : List Block) (o : Options),
        List.Forall₂ ShownAlike d.blocks blocks →
        (render { d with blocks } o).html = (render d o).html)
    ∧ ∀ (d : Document) (o : Options) (n : Int64) (as bs : List Block), ∃ opening closing,
        (render { d with blocks := as ++ bs } o).html = opening ++ closing
          ∧ ∀ b : Block, b.order = n → (render { d with blocks := as ++ b :: bs } o).html
            = opening ++ blockHtml b d.data d.branding ++ closing := by
  refine ⟨fun d d' o o' h => h.plainText_eq, fun c branding => ?_,
    fun d blocks o h => html_eq_of_shownAlike o h, exists_html_insert⟩
  refine ⟨fun b => nofun, fun b => nofun, fun b => nofun, fun b => nofun, fun b => ?_, fun b => ?_⟩
  · exact silent_header branding
  · exact silent_text branding

def note : Document where
  blocks :=
    [⟨"title", 1, .header { title := some "Hello" }⟩, ⟨"body", 2, .text { content := "Soon" }⟩]

/-- The note with another look, and a divider and a blank text in it. -/
def decoratedNote : Document where
  subject := "News"
  blocks :=
    [ ⟨"line", 2, .divider {}⟩,
      ⟨"0", 1, .header { title := some "Hello", showLogo := true }⟩,
      ⟨"space", -1, .text { content := "\n " }⟩,
      ⟨"1", 2, .text { content := "Soon", formatting := { bold := true } }⟩ ]
  branding := some { brandColor := some "#ff0000" }

/-- The blocks of the note under another title. -/
def retitledBlocks : List Block :=
  [⟨"title", 1, .header { title := some "Bye" }⟩, ⟨"body", 2, .text { content := "Soon" }⟩]

theorem format_dependence_note :
    SaysTheSame note decoratedNote
      ∧ (∀ o o', (render decoratedNote o').text = (render note o).text)
      ∧ (∀ o, (render { note with blocks := retitledBlocks } o).html = (render note o).html)
      ∧ ∀ o, ∃ opening closing, (render note o).html = opening ++ closing
        ∧ (render { note with blocks := ⟨"line", 2, .rawHtml ⟨"<hr>"⟩⟩ :: note.blocks } o).html
          = opening ++ "<hr>" ++ closing := by
  obtain ⟨htext, hsilent, hhtml, hinsert⟩ := format_dependence
  obtain ⟨-, hdivider, -, -, -, hblank⟩ := hsilent note.data note.branding
  have hsame : SaysTheSame note decoratedNote :=
    ⟨rfl, ⟨rfl, rfl, rfl⟩,
      .insert (hdivider {}) (.keep _ _ 1 (.header _ true none)
        (.insert (hblank _ (by decide +kernel)) (.keep _ _ 2 (.text _ rfl) .nil)))⟩
  refine ⟨hsame, fun o o' => htext _ _ o o' hsame, fun o => hhtml note retitledBlocks o ?_,
    fun o => ?_⟩
  · exact .cons ⟨rfl, .header _ _⟩ (.cons ⟨rfl, .refl _⟩ .nil)
  · obtain ⟨opening, closing, hnote, hline⟩ := hinsert note o 2 [] note.blocks
    exact ⟨opening, closing, hnote, hline ⟨"line", 2, .rawHtml ⟨"<hr>"⟩⟩ rfl⟩

end BlockMail.Render
