import BlockMail.Html.Node

/-! # Well-nested markup

A reader goes through markup one character at a time and keeps the elements that are open.
Every closing tag has to close the innermost of them, and a void element opens nothing.
What stands in quotes inside a tag, in a comment or in a declaration is passed over.

`openAfter` is what is open behind a text, and a text is `WellNested` when it closes what it
opens and nothing else.  Such a text can stand anywhere between tags (`WellNested.reads`).
The pieces of a document are printed well nested when their names are names, their texts and
values are plain, and the markup copied into them is well nested (`Node.Tidy.reads`).
-/

namespace BlockMail.Html

/-! ## Reading tags -/

/-- An element that is open: its name in small letters, and what its tag says besides. -/
structure OpenElement where
  name : String
  attributes : String
  deriving DecidableEq, Repr

def voidNames : List String := ["meta", "br", "img", "hr"]

/-- A character that stands behind the name of an element. -/
def endsName (c : Char) : Bool :=
  c == ' ' || c == '\n' || c == '\t' || c == '\r' || c == '\x0c' || c == '/'

def nameIn (written : List Char) : String :=
  String.ofList ((written.takeWhile fun c => !endsName c).map Char.toLower)

def attributesIn (written : List Char) : String :=
  String.ofList (written.dropWhile fun c => !endsName c)

/-- What is open behind a tag, of which `written` stands between the brackets; none if it
    closes anything but the innermost element. -/
def afterTag (written : List Char) (opened : List OpenElement) : Option (List OpenElement) :=
  if written.head? = some '/' then
    match opened with
    | [] => none
    | e :: outer => if nameIn written.tail = e.name then some outer else none
  else if nameIn written ∈ voidNames then some opened
  else some (⟨nameIn written, attributesIn written⟩ :: opened)

/-- Where in the markup the reader is. -/
inductive Mode where
  | text
  /-- Behind a bracket that may begin a tag. -/
  | bracket
  /-- In a tag, of which `written` has been read, the last character first; in quotes, if
      there is a quote. -/
  | tag (written : List Char) (quote : Option Char)
  /-- Behind `<!` and perhaps a dash. -/
  | bang (dashes : Nat)
  | declaration
  /-- In a comment, behind a row of dashes. -/
  | comment (dashes : Nat)
  deriving DecidableEq, Repr

structure Reader where
  mode : Mode
  opened : List OpenElement
  deriving DecidableEq, Repr

namespace Reader

def step (r : Reader) (c : Char) : Option Reader :=
  match r.mode with
  | .text => some { r with mode := if c = '<' then .bracket else .text }
  | .bracket =>
    some { r with
      mode :=
        if c = '<' then .bracket
        else if c = '!' then .bang 0
        else if c = '?' then .declaration
        else if c = '/' ∨ c.isAlpha then .tag [c] none
        else .text }
  | .tag written none =>
    if c = '>' then (afterTag written.reverse r.opened).map (⟨.text, ·⟩)
    else some { r with mode := .tag (c :: written) (if c = '"' ∨ c = '\'' then some c else none) }
  | .tag written (some quote) =>
    some { r with mode := .tag (c :: written) (if c = quote then none else some quote) }
  | .bang dashes =>
    some { r with
      mode :=
        if c = '-' then (if dashes = 0 then .bang 1 else .comment 2)
        else if c = '>' then .text
        else .declaration }
  | .declaration => some { r with mode := if c = '>' then .text else .declaration }
  | .comment dashes =>
    some { r with
      mode :=
        if c = '-' then .comment (dashes + 1)
        else if c = '>' ∧ 2 ≤ dashes then .text
        else .comment 0 }

def read (r : Reader) (cs : List Char) : Option Reader := cs.foldlM step r

/-- The reader in the same place, with further elements open around all others. -/
def within (r : Reader) (outer : List OpenElement) : Reader :=
  { r with opened := r.opened ++ outer }

end Reader

/-- What is open behind a text; none if the text ends inside a tag or closes an element that
    is not the innermost one. -/
def openAfter (s : String) : Option (List OpenElement) :=
  match Reader.read ⟨.text, []⟩ s.toList with
  | some ⟨.text, opened⟩ => some opened
  | _ => none

/-- Every element that the text opens it closes, the innermost first, and it closes no other. -/
def WellNested (s : String) : Prop := openAfter s = some []

instance (s : String) : Decidable (WellNested s) := inferInstanceAs (Decidable (_ = _))

namespace Reader

theorem read_append (r : Reader) (cs ds : List Char) :
    r.read (cs ++ ds) = (r.read cs).bind (·.read ds) :=
  List.foldlM_append

theorem read_cons (r : Reader) (c : Char) (cs : List Char) :
    r.read (c :: cs) = (r.step c).bind (·.read cs) :=
  List.foldlM_cons

theorem afterTag_within {written : List Char} {opened after : List OpenElement}
    (h : afterTag written opened = some after) (outer : List OpenElement) :
    afterTag written (opened ++ outer) = some (after ++ outer) := by
  unfold afterTag at h ⊢
  by_cases hclosing : written.head? = some '/'
  · rw [if_pos hclosing] at h ⊢
    cases opened with
    | nil => cases h
    | cons e opened =>
      simp only [List.cons_append] at h ⊢
      split at h <;> cases h
      rw [if_pos ‹_›]
  · rw [if_neg hclosing] at h ⊢
    split at h <;> cases h
    · rw [if_pos ‹_›]
    · rw [if_neg ‹_›]
      rfl

/-- Elements that are open around a text do not matter, as long as it closes none of them. -/
theorem step_within {r r' : Reader} {c : Char} (h : r.step c = some r') (outer : List OpenElement) :
    (r.within outer).step c = some (r'.within outer) := by
  obtain ⟨mode, opened⟩ := r
  cases mode with
  | tag written quote =>
    cases quote with
    | none =>
      simp only [step, within] at h ⊢
      -- only the end of a tag looks at the open elements
      split at h
      · obtain ⟨after, hafter, rfl⟩ := Option.map_eq_some_iff.mp h
        rw [if_pos ‹_›, afterTag_within hafter outer]
        rfl
      · cases h
        rw [if_neg ‹_›]
    | some quote =>
      cases h
      rfl
  | _ =>
    cases h
    rfl

theorem read_within {r r' : Reader} {cs : List Char} (h : r.read cs = some r')
    (outer : List OpenElement) : (r.within outer).read cs = some (r'.within outer) := by
  induction cs generalizing r with
  | nil =>
    cases h
    rfl
  | cons c cs ih =>
    rw [read_cons] at h ⊢
    obtain ⟨r₁, hstep, hrest⟩ := Option.bind_eq_some_iff.mp h
    rw [step_within hstep outer, Option.bind_some]
    exact ih hrest

end Reader

/-! ## From one text to the next -/

/-- Reading the text, with the elements `before` open, leaves `after` open. -/
def Reads (s : String) (before after : List OpenElement) : Prop :=
  Reader.read ⟨.text, before⟩ s.toList = some ⟨.text, after⟩

variable {s t : String} {x y z : List OpenElement}

theorem openAfter_eq_some_iff : openAfter s = some x ↔ Reads s [] x := by
  unfold openAfter Reads
  split
  · next opened heq => simp [heq]
  · next hother => exact ⟨nofun, fun h => absurd h (hother x)⟩

theorem Reads.append (hs : Reads s x y) (ht : Reads t y z) : Reads (s ++ t) x z := by
  unfold Reads at hs ht ⊢
  rw [String.toList_append, Reader.read_append, hs, Option.bind_some, ht]

theorem Reads.within (h : Reads s x y) (outer : List OpenElement) :
    Reads s (x ++ outer) (y ++ outer) :=
  Reader.read_within h outer

theorem reads_empty (x : List OpenElement) : Reads "" x x := rfl

theorem WellNested.reads (h : WellNested s) (x : List OpenElement) : Reads s x x :=
  (openAfter_eq_some_iff.mp h).within x

/-! ## Plain texts -/

def isPlainChar (c : Char) : Bool := c != '<' && c != '>' && c != '"'

/-- The text has no bracket and no double quote. -/
def Plain (s : String) : Prop := ∀ c ∈ s.toList, isPlainChar c = true

-- named, since the search also finds the instance that goes through all characters there are
instance (s : String) : Decidable (Plain s) := List.decidableBAll _ s.toList

theorem plain_append_iff : Plain (s ++ t) ↔ Plain s ∧ Plain t := by
  unfold Plain
  rw [String.toList_append, List.forall_mem_append]

theorem Plain.append (hs : Plain s) (ht : Plain t) : Plain (s ++ t) :=
  plain_append_iff.mpr ⟨hs, ht⟩

theorem Plain.lit {cs : List Char} (h : cs.all isPlainChar = true) : Plain (String.ofList cs) := by
  unfold Plain
  rw [String.toList_ofList]
  exact List.all_eq_true.mp h

theorem Plain.of_subset (hs : Plain s) (h : ∀ c ∈ t.toList, c ∈ s.toList) : Plain t :=
  fun c hc => hs c (h c hc)

theorem Plain.reads (h : Plain s) (x : List OpenElement) : Reads s x x := by
  unfold Reads
  replace h : ∀ c ∈ s.toList, c ≠ '<' := fun c hc hbracket => by
    have hplain := h c hc
    rw [hbracket] at hplain
    cases hplain
  generalize s.toList = cs at h
  induction cs with
  | nil => rfl
  | cons c cs ih =>
    have hstep : Reader.step ⟨.text, x⟩ c = some ⟨.text, x⟩ := by
      simp only [Reader.step, if_neg (h c (.head _))]
    rw [Reader.read_cons, hstep, Option.bind_some]
    exact ih fun d hd => h d (.tail _ hd)

/-! ## Tags -/

def isNameChar (c : Char) : Bool := c.isLower || c.isDigit || c == '-'

/-- Small letters, digits and dashes, of which the first is a letter. -/
def isName (s : String) : Bool := s.toList.head?.any Char.isLower && s.toList.all isNameChar

/-- The names are names, and no value ends its quotes. -/
def TidyAttributes (attributes : List (String × String)) : Prop :=
  ∀ a ∈ attributes, isName a.1 = true ∧ Plain a.2

theorem isNameChar_ne {c d : Char} (hc : isNameChar c = true) (hd : isNameChar d = false) :
    c ≠ d := by
  intro h
  rw [h, hd] at hc
  cases hc

theorem endsName_of_isNameChar {c : Char} (h : isNameChar c = true) : endsName c = false := by
  have hne := fun d => isNameChar_ne (d := d) h
  simp [endsName, hne ' ' rfl, hne '\n' rfl, hne '\t' rfl, hne '\r' rfl, hne '\x0c' rfl,
    hne '/' rfl]

theorem toLower_of_isNameChar {c : Char} (h : isNameChar c = true) : c.toLower = c := by
  have hlower : c.isLower = (decide (c.val ≥ 'a'.val) && decide (c.val ≤ 'z'.val)) := rfl
  have hupper : ¬ (c.val ≥ 'A'.val ∧ c.val ≤ 'Z'.val) := by
    by_cases hdash : c = '-'
    · rw [hdash]
      decide
    · simp [isNameChar, hlower, Char.isDigit, hdash, UInt32.le_iff_toNat_le] at h ⊢
      omega
  exact dif_neg hupper

theorem isName_iff : isName s = true
    ↔ (∃ c cs, s.toList = c :: cs ∧ c.isLower = true) ∧ ∀ c ∈ s.toList, isNameChar c = true := by
  unfold isName
  cases s.toList with
  | nil => simp
  | cons c cs => simp

theorem nameIn_append (hs : isName s = true) {cs : List Char}
    (hcs : ∀ c ∈ cs.head?, endsName c = true) :
    nameIn (s.toList ++ cs) = s ∧ attributesIn (s.toList ++ cs) = String.ofList cs := by
  have hname := (isName_iff.mp hs).2
  have hends : ∀ c ∈ s.toList, (!endsName c) = true := fun c hc => by
    rw [endsName_of_isNameChar (hname c hc)]
    rfl
  have hstop : cs.takeWhile (fun c => !endsName c) = []
      ∧ cs.dropWhile (fun c => !endsName c) = cs := by
    cases cs with
    | nil => exact ⟨rfl, rfl⟩
    | cons c cs => simp [hcs c rfl]
  constructor
  · unfold nameIn
    rw [List.takeWhile_append_of_pos hends, hstop.1, List.append_nil,
      List.map_congr_left fun c hc => toLower_of_isNameChar (hname c hc), List.map_id',
      String.ofList_toList]
  · unfold attributesIn
    rw [List.dropWhile_append_of_pos hends, hstop.2]

theorem read_tag {cs : List Char} (h : ∀ c ∈ cs, c ≠ '>' ∧ c ≠ '"' ∧ c ≠ '\'') (written : List Char)
    (x : List OpenElement) :
    Reader.read ⟨.tag written none, x⟩ cs = some ⟨.tag (cs.reverse ++ written) none, x⟩ := by
  induction cs generalizing written with
  | nil => rfl
  | cons c cs ih =>
    obtain ⟨hend, hdouble, hsingle⟩ := h c (.head _)
    have hstep : Reader.step ⟨.tag written none, x⟩ c = some ⟨.tag (c :: written) none, x⟩ := by
      simp only [Reader.step, if_neg hend, hdouble, hsingle, or_self, if_false]
    rw [Reader.read_cons, hstep, Option.bind_some, ih fun d hd => h d (.tail _ hd),
      List.reverse_cons, List.append_assoc, List.singleton_append]

theorem read_quoted {cs : List Char} {quote : Char} (h : ∀ c ∈ cs, c ≠ quote) (written : List Char)
    (x : List OpenElement) :
    Reader.read ⟨.tag written (some quote), x⟩ cs
      = some ⟨.tag (cs.reverse ++ written) (some quote), x⟩ := by
  induction cs generalizing written with
  | nil => rfl
  | cons c cs ih =>
    have hstep : Reader.step ⟨.tag written (some quote), x⟩ c
        = some ⟨.tag (c :: written) (some quote), x⟩ := by
      simp only [Reader.step, if_neg (h c (.head _))]
    rw [Reader.read_cons, hstep, Option.bind_some, ih fun d hd => h d (.tail _ hd),
      List.reverse_cons, List.append_assoc, List.singleton_append]

theorem read_name (h : isName s = true) (written : List Char) (x : List OpenElement) :
    Reader.read ⟨.tag written none, x⟩ s.toList
      = some ⟨.tag (s.toList.reverse ++ written) none, x⟩ := by
  refine read_tag (fun c hc => ?_) written x
  have hname := (isName_iff.mp h).2 c hc
  exact ⟨isNameChar_ne hname rfl, isNameChar_ne hname rfl, isNameChar_ne hname rfl⟩

theorem read_attributes {attributes : List (String × String)} (h : TidyAttributes attributes)
    (written : List Char) (x : List OpenElement) :
    Reader.read ⟨.tag written none, x⟩ (printAttributes attributes).toList
      = some ⟨.tag ((printAttributes attributes).toList.reverse ++ written) none, x⟩ := by
  induction attributes generalizing written with
  | nil => rfl
  | cons a attributes ih =>
    obtain ⟨name, value⟩ := a
    obtain ⟨hname, hvalue⟩ := h (name, value) (.head _)
    have hquote : ∀ c ∈ value.toList, c ≠ '"' := fun c hc heq => by
      have hplain := hvalue c hc
      rw [heq] at hplain
      cases hplain
    have hspell : (printAttributes ((name, value) :: attributes)).toList
        = ' ' :: (name.toList ++ '=' :: '"' :: (value.toList ++ '"'
          :: (printAttributes attributes).toList)) := by
      simp [printAttributes]
    rw [hspell, Reader.read_cons]
    show Reader.read ⟨.tag (' ' :: written) none, x⟩ _ = _
    rw [Reader.read_append, read_name hname, Option.bind_some, Reader.read_cons]
    show Reader.read ⟨.tag ('=' :: _) none, x⟩ _ = _
    rw [Reader.read_cons]
    show Reader.read ⟨.tag ('"' :: _) (some '"'), x⟩ _ = _
    rw [Reader.read_append, read_quoted hquote, Option.bind_some, Reader.read_cons]
    show Reader.read ⟨.tag ('"' :: _) none, x⟩ _ = _
    rw [ih fun a ha => h a (.tail _ ha)]
    simp

theorem head?_printAttributes (attributes : List (String × String)) :
    ∀ c ∈ (printAttributes attributes).toList.head?, endsName c = true := by
  cases attributes with
  | nil => nofun
  | cons a attributes =>
    obtain ⟨name, value⟩ := a
    have hblank : (printAttributes ((name, value) :: attributes)).toList.head? = some ' ' := by
      simp [printAttributes]
    intro c hc
    rw [hblank] at hc
    cases hc
    rfl

theorem read_openingTag {tag : String} {attributes : List (String × String)}
    (htag : isName tag = true) (hattributes : TidyAttributes attributes) (x : List OpenElement) :
    Reads (openingTag tag attributes) x
      (if tag ∈ voidNames then x else ⟨tag, printAttributes attributes⟩ :: x) := by
  obtain ⟨⟨c, cs, hcs, hc⟩, -⟩ := isName_iff.mp htag
  have hletter : isNameChar c = true := (isName_iff.mp htag).2 c (by rw [hcs]; exact .head _)
  have halpha : c.isAlpha = true := Bool.or_eq_true_iff.mpr (.inr hc)
  have hspell : (openingTag tag attributes).toList
      = '<' :: (tag.toList ++ ((printAttributes attributes).toList ++ ['>'])) := by
    simp [openingTag]
  have hfirst : Reader.step ⟨.bracket, x⟩ c = some ⟨.tag [c] none, x⟩ := by
    simp only [Reader.step, if_neg (isNameChar_ne (d := '<') hletter rfl),
      if_neg (isNameChar_ne (d := '!') hletter rfl), if_neg (isNameChar_ne (d := '?') hletter rfl),
      halpha, or_true, if_true]
  have hname : Reader.read ⟨.bracket, x⟩ tag.toList = some ⟨.tag tag.toList.reverse none, x⟩ := by
    rw [hcs, Reader.read_cons, hfirst, Option.bind_some, read_tag]
    · simp
    · intro d hd
      have hd := (isName_iff.mp htag).2 d (by rw [hcs]; exact .tail _ hd)
      exact ⟨isNameChar_ne hd rfl, isNameChar_ne hd rfl, isNameChar_ne hd rfl⟩
  have hhead : (tag.toList ++ (printAttributes attributes).toList).head? ≠ some '/' := by
    rw [hcs]
    intro h
    exact isNameChar_ne hletter rfl (Option.some.inj h)
  obtain ⟨hread, hrest⟩ := nameIn_append htag (head?_printAttributes attributes)
  unfold Reads
  rw [hspell, Reader.read_cons]
  show Reader.read ⟨.bracket, x⟩ _ = _
  rw [Reader.read_append, hname, Option.bind_some, Reader.read_append, read_attributes hattributes,
    Option.bind_some, ← List.reverse_append]
  show Option.bind (Option.map _ (afterTag _ x)) _ = _
  rw [List.reverse_reverse]
  simp only [afterTag, if_neg hhead, hread, hrest, String.ofList_toList]
  split <;> rfl

theorem reads_closingTag {tag : String} (htag : isName tag = true) (attributes : String)
    (x : List OpenElement) : Reads (closingTag tag) (⟨tag, attributes⟩ :: x) x := by
  have hspell : (closingTag tag).toList = '<' :: '/' :: (tag.toList ++ ['>']) := by
    simp [closingTag]
  have hread : nameIn tag.toList = tag := by
    have hnothing : ∀ c ∈ ([] : List Char).head?, endsName c = true := nofun
    have happend := (nameIn_append htag hnothing).1
    rwa [List.append_nil] at happend
  unfold Reads
  rw [hspell, Reader.read_cons]
  show Reader.read ⟨.bracket, _⟩ _ = _
  rw [Reader.read_cons]
  show Reader.read ⟨.tag ['/'] none, _⟩ _ = _
  rw [Reader.read_append, read_name htag, Option.bind_some]
  show Option.bind (Option.map _ (afterTag _ _)) _ = _
  rw [List.reverse_append, List.reverse_reverse]
  simp only [afterTag, List.reverse_singleton, List.singleton_append, List.head?_cons,
    List.tail_cons, hread, if_true]
  rfl

/-! ## Documents -/

/-- Pieces that are printed well nested. -/
inductive Node.Tidy : Node → Prop where
  | text {s : String} (hplain : Plain s) : Node.Tidy (.text s)
  | raw {markup : String} (hnested : WellNested markup) : Node.Tidy (.raw markup)
  | element {tag : String} {attributes : List (String × String)} {content : List Node}
      (htag : isName tag = true) (hfull : tag ∉ voidNames) (hattributes : TidyAttributes attributes)
      (hcontent : ∀ n ∈ content, Node.Tidy n) : Node.Tidy (.element tag attributes content)
  | voidElement {tag : String} {attributes : List (String × String)}
      (hvoid : tag ∈ voidNames) (hattributes : TidyAttributes attributes) :
      Node.Tidy (.voidElement tag attributes)
  | doctype : Node.Tidy .doctype

def AllTidy (ns : List Node) : Prop := ∀ n ∈ ns, n.Tidy

theorem isName_of_mem_voidNames {tag : String} (h : tag ∈ voidNames) : isName tag = true := by
  have hall : ∀ name ∈ voidNames, isName name = true := by decide
  exact hall tag h

theorem reads_printAll {ns : List Node} (h : ∀ n ∈ ns, ∀ x, Reads n.print x x)
    (x : List OpenElement) : Reads (printAll ns) x x := by
  induction ns with
  | nil =>
    rw [printAll_nil]
    exact reads_empty x
  | cons n ns ih =>
    rw [printAll_cons]
    exact (h n (.head _) x).append (ih fun m hm => h m (.tail _ hm))

theorem Node.Tidy.reads {n : Node} (h : n.Tidy) (x : List OpenElement) : Reads n.print x x := by
  induction h generalizing x with
  | text hplain =>
    rw [Node.print]
    exact hplain.reads x
  | raw hnested =>
    rw [Node.print]
    exact hnested.reads x
  | @element tag attributes content htag hfull hattributes _ ih =>
    have hopening := read_openingTag htag hattributes x
    rw [if_neg hfull] at hopening
    rw [Node.print]
    exact (hopening.append (reads_printAll ih _)).append (reads_closingTag htag _ x)
  | @voidElement tag attributes hvoid hattributes =>
    have hopening := read_openingTag (isName_of_mem_voidNames hvoid) hattributes x
    rw [if_pos hvoid] at hopening
    rw [Node.print]
    exact hopening
  | doctype =>
    rw [Node.print]
    rfl

theorem TidyAttributes.nil : TidyAttributes [] := nofun

theorem TidyAttributes.cons {name value : String} {attributes : List (String × String)}
    (hname : isName name = true) (hvalue : Plain value) (h : TidyAttributes attributes) :
    TidyAttributes ((name, value) :: attributes) :=
  List.forall_mem_cons.mpr ⟨⟨hname, hvalue⟩, h⟩

theorem TidyAttributes.single {name value : String} (hname : isName name = true)
    (hvalue : Plain value) : TidyAttributes [(name, value)] :=
  .cons hname hvalue .nil

namespace AllTidy

variable {n : Node} {ns ms : List Node}

theorem reads (h : AllTidy ns) (x : List OpenElement) : Reads (printAll ns) x x :=
  reads_printAll (fun n hn => (h n hn).reads) x

theorem wellNested (h : AllTidy ns) : WellNested (printAll ns) :=
  openAfter_eq_some_iff.mpr (h.reads [])

theorem nil : AllTidy [] := nofun

theorem cons (hn : n.Tidy) (hns : AllTidy ns) : AllTidy (n :: ns) :=
  List.forall_mem_cons.mpr ⟨hn, hns⟩

theorem single (hn : n.Tidy) : AllTidy [n] := cons hn nil

theorem append (hns : AllTidy ns) (hms : AllTidy ms) : AllTidy (ns ++ ms) :=
  List.forall_mem_append.mpr ⟨hns, hms⟩

theorem map {α : Type} {f : α → Node} {as : List α} (h : ∀ a ∈ as, (f a).Tidy) :
    AllTidy (as.map f) := by
  intro n hn
  obtain ⟨a, ha, rfl⟩ := List.mem_map.mp hn
  exact h a ha

theorem flatMap {α : Type} {f : α → List Node} {as : List α} (h : ∀ a ∈ as, AllTidy (f a)) :
    AllTidy (as.flatMap f) := by
  intro n hn
  obtain ⟨a, ha, hn⟩ := List.mem_flatMap.mp hn
  exact h a ha n hn

theorem ite {p : Bool} (h : AllTidy ns) : AllTidy (if p then ns else []) := by
  cases p with
  | true => exact h
  | false => exact nil

end AllTidy

theorem tidy_newline : newline.Tidy := .text (.lit rfl)

theorem AllTidy.line {n : Node} {ns : List Node} (hn : n.Tidy) (hns : AllTidy ns) :
    AllTidy (newline :: n :: ns) :=
  .cons tidy_newline (.cons hn hns)

theorem tidy_element {tag : String} {attributes : List (String × String)} {content : List Node}
    (htag : isName tag = true ∧ tag ∉ voidNames) (hattributes : TidyAttributes attributes)
    (hcontent : AllTidy content) : (Node.element tag attributes content).Tidy :=
  .element htag.1 htag.2 hattributes hcontent

/-! ## Around a document -/

/-- What `around` prints before the given pieces opens the elements `opened`, and what it
    prints behind them closes them. -/
def Holds (around : List Node → List Node) (opened : List OpenElement) : Prop :=
  ∃ opening closing, (∀ ns, printAll (around ns) = opening ++ printAll ns ++ closing)
    ∧ (∀ x, Reads opening x (opened ++ x)) ∧ ∀ x, Reads closing (opened ++ x) x

namespace Holds

variable {around : List Node → List Node} {opened : List OpenElement} {ms : List Node}

theorem self : Holds (fun ns => ns) [] := by
  refine ⟨"", "", fun ns => ?_, reads_empty, reads_empty⟩
  rw [String.empty_append, String.append_empty]

theorem after (h : Holds around opened) (hms : AllTidy ms) :
    Holds (fun ns => ms ++ around ns) opened := by
  obtain ⟨opening, closing, hprint, hopening, hclosing⟩ := h
  refine ⟨printAll ms ++ opening, closing, fun ns => ?_, fun x => ?_, hclosing⟩
  · rw [printAll_append, hprint, String.append_assoc, String.append_assoc, String.append_assoc]
  · exact (hms.reads x).append (hopening x)

theorem before (h : Holds around opened) (hms : AllTidy ms) :
    Holds (fun ns => around ns ++ ms) opened := by
  obtain ⟨opening, closing, hprint, hopening, hclosing⟩ := h
  refine ⟨opening, closing ++ printAll ms, fun ns => ?_, hopening, fun x => ?_⟩
  · rw [printAll_append, hprint, String.append_assoc]
  · exact (hclosing x).append (hms.reads x)

theorem element (h : Holds around opened) (tag : String) {attributes : List (String × String)}
    (htag : isName tag = true ∧ tag ∉ voidNames) (hattributes : TidyAttributes attributes) :
    Holds (fun ns => [.element tag attributes (around ns)])
      (opened ++ [⟨tag, printAttributes attributes⟩]) := by
  obtain ⟨opening, closing, hprint, hopening, hclosing⟩ := h
  refine ⟨openingTag tag attributes ++ opening, closing ++ closingTag tag, fun ns => ?_,
    fun x => ?_, fun x => ?_⟩
  · rw [printAll_cons, printAll_nil, String.append_empty, Node.print, hprint]
    simp only [String.append_assoc]
  · have hentered := read_openingTag htag.1 hattributes x
    rw [if_neg htag.2] at hentered
    rw [List.append_assoc]
    exact hentered.append (hopening _)
  · rw [List.append_assoc]
    exact (hclosing _).append (reads_closingTag htag.1 _ x)

end Holds

/-! ## In the middle of a text -/

/-- What is open behind the characters, which may end inside a tag. -/
def opened? (cs : List Char) : Option (List OpenElement) :=
  (Reader.read ⟨.text, []⟩ cs).map (·.opened)

theorem WellNested.stays_within (ht : WellNested t) (hs : Reads s [] x) {front : List Char}
    (hfront : front <+: t.toList) :
    ∃ inner, opened? (s.toList ++ front) = some (inner ++ x) := by
  obtain ⟨rest, hrest⟩ := hfront
  have hread := openAfter_eq_some_iff.mp ht
  unfold Reads at hread hs
  rw [← hrest, Reader.read_append] at hread
  obtain ⟨r, hr, -⟩ := Option.bind_eq_some_iff.mp hread
  refine ⟨r.opened, ?_⟩
  have hwithin : Reader.read ⟨.text, x⟩ front = some (r.within x) := Reader.read_within hr x
  unfold opened?
  rw [Reader.read_append, hs, Option.bind_some, hwithin]
  rfl

end BlockMail.Html
