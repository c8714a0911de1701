import BlockMail.Proofs.Json.Edits

/-! # Structures of one text

A structure with a single field, which is a text, is read wherever the text is said once: `Says`.
-/

namespace BlockMail.Json

variable {name s : String} {α β : Type}

/-- The tree says one text, in an object under the name given, which no other member has, or in an
    array. -/
inductive Says (name : String) : Tree → String → Prop
  | member {ms : List (List StringUnit × Tree)} {us vs : List StringUnit} {s : String}
      (hnames : ∀ m ∈ ms, (textOf? m.1).isSome = true)
      (hmember : ms.filter (fun m => textOf? m.1 == some name) = [(us, .string vs)])
      (hvalue : textOf? vs = some s) : Says name (.object ms) s
  | item {vs : List StringUnit} {s : String} (hvalue : textOf? vs = some s) :
      Says name (.array [.string vs]) s

theorem fieldOf?_single_self : fieldOf? [[name]] name = some 0 := by simp [fieldOf?]

theorem fieldOf?_single_of_ne {other : String} (h : other ≠ name) :
    fieldOf? [[name]] other = none := by simp [fieldOf?, h]

theorem arrivalsFrom_single_seen (ms : List (String × α)) :
    arrivalsFrom [[name]] [0] ms = ⟨[], (ms.filter (·.1 == name)).isEmpty⟩ := by
  induction ms with
  | nil => rfl
  | cons m ms ih =>
    obtain ⟨other, a⟩ := m
    rw [arrivalsFrom]
    by_cases hname : other = name
    · subst hname
      simp [fieldOf?_single_self]
    · simp [fieldOf?_single_of_ne hname, hname, ih]

theorem required_of_members [Source α] {a : α} {ms : List (String × α)} (item : α → Option β)
    (hview : view a = .object ms true) :
    ((Record.read? [[name]] a).bind fun r => r.required 0 item)
      = match ms.filter (·.1 == name) with
        | [m] => item m.2
        | _ => none := by
  rw [Record.read?_of_object hview, Bool.and_true]
  clear hview
  induction ms with
  | nil => rfl
  | cons m ms ih =>
    obtain ⟨other, a⟩ := m
    rw [arrivalsFrom]
    by_cases hname : other = name
    · subst hname
      have hfilter : ((other, a) :: ms).filter (·.1 == other)
          = (other, a) :: ms.filter (·.1 == other) := by simp
      rw [fieldOf?_single_self, hfilter]
      simp only [List.not_mem_nil, if_false, arrivalsFrom_single_seen]
      cases ms.filter (·.1 == other) <;> rfl
    · rw [fieldOf?_single_of_ne hname, List.filter_cons_of_neg (by simpa using hname)]
      exact ih

theorem namedMembers_sound_iff {room : Nat} {ms : List (List StringUnit × Tree)} :
    (namedMembers room ms).2 = true ↔ ∀ m ∈ ms, (textOf? m.1).isSome = true := by
  induction ms with
  | nil => exact iff_of_true rfl (List.forall_mem_nil _)
  | cons m ms ih =>
    obtain ⟨us, t⟩ := m
    rw [namedMembers, List.forall_mem_cons, ← ih]
    cases textOf? us <;> simp

theorem filter_namedMembers {room : Nat} {ms : List (List StringUnit × Tree)}
    (h : ∀ m ∈ ms, (textOf? m.1).isSome = true) :
    (namedMembers room ms).1.filter (·.1 == name)
      = (ms.filter fun m => textOf? m.1 == some name).map fun m => (name, ⟨room, m.2⟩) := by
  induction ms with
  | nil => rfl
  | cons m ms ih =>
    obtain ⟨us, t⟩ := m
    obtain ⟨hus, hms⟩ := List.forall_mem_cons.mp h
    obtain ⟨other, hother⟩ := Option.isSome_iff_exists.mp hus
    rw [namedMembers_cons hother]
    by_cases hname : other = name
    · subst hname
      simp [hother, ih hms]
    · simp [hother, hname, ih hms]

theorem readString_placed {room : Nat} {t : Tree} :
    readString (⟨room, t⟩ : Placed) = some s ↔ ∃ us, t = .string us ∧ textOf? us = some s := by
  cases t with
  | string us =>
    simp only [readString, view, Placed.view]
    cases hus : textOf? us <;> simp [hus]
  | number n =>
    simp only [readString, view, Placed.view]
    cases n.number? with
    | none => simp
    | some k => cases k <;> simp
  | array items => cases room <;> simp [readString, view, Placed.view]
  | object ms => cases room <;> simp [readString, view, Placed.view]
  | null => simp [readString, view, Placed.view]
  | bool b => simp [readString, view, Placed.view]

theorem says_object_iff {ms : List (List StringUnit × Tree)} :
    Says name (.object ms) s ↔ (∀ m ∈ ms, (textOf? m.1).isSome = true) ∧ ∃ us vs,
      ms.filter (fun m => textOf? m.1 == some name) = [(us, .string vs)] ∧ textOf? vs = some s := by
  constructor
  · intro h
    cases h with
    | member hnames hmember hvalue => exact ⟨hnames, _, _, hmember, hvalue⟩
  · rintro ⟨hnames, us, vs, hmember, hvalue⟩
    exact .member hnames hmember hvalue

theorem says_array_iff {items : List Tree} :
    Says name (.array items) s ↔ ∃ vs, items = [.string vs] ∧ textOf? vs = some s := by
  constructor
  · intro h
    cases h with
    | item hvalue => exact ⟨_, rfl, hvalue⟩
  · rintro ⟨vs, rfl, hvalue⟩
    exact .item hvalue

theorem required_object {room : Nat} {ms : List (List StringUnit × Tree)} :
    ((Record.read? [[name]] (⟨room + 1, .object ms⟩ : Placed)).bind fun r =>
      r.required 0 readString) = some s ↔ Says name (.object ms) s := by
  rw [says_object_iff]
  by_cases hnames : ∀ m ∈ ms, (textOf? m.1).isSome = true
  · have hview : view (⟨room + 1, .object ms⟩ : Placed) = .object (namedMembers room ms).1 true :=
      congrArg (View.object _) (namedMembers_sound_iff.mpr hnames)
    rw [required_of_members readString hview, filter_namedMembers hnames, and_iff_right hnames]
    cases hfilter : ms.filter fun m => textOf? m.1 == some name with
    | nil => simp
    | cons m rest =>
      obtain ⟨us, t⟩ := m
      cases rest with
      | nil => simp [readString_placed]
      | cons m' rest => simp
  · have hunsound : (namedMembers room ms).2 = false :=
      Bool.eq_false_iff.mpr fun hsound => hnames (namedMembers_sound_iff.mp hsound)
    have hview : view (⟨room + 1, .object ms⟩ : Placed) = .object (namedMembers room ms).1 false :=
      congrArg (View.object _) hunsound
    rw [Record.read?_of_unsound hview]
    exact iff_of_false nofun fun h => hnames h.1

theorem required_array {room : Nat} {items : List Tree} :
    ((Record.read? [[name]] (⟨room + 1, .array items⟩ : Placed)).bind fun r =>
      r.required 0 readString) = some s ↔ Says name (.array items) s := by
  rw [says_array_iff, Record.read?_of_items]
  match items with
  | [] => simp [Record.required, Record.slot?]
  | [t] => simp [Record.required, Record.slot?, readString_placed]
  | t :: t' :: items => simp

theorem read?_of_plain {fields : List Field} {p : Placed} (h : p.view.plain = true) :
    Record.read? fields p = none := by
  have hlayer : view p = p.view := rfl
  unfold Record.read? arrivals?
  rw [hlayer]
  cases hview : p.view with
  | array | object =>
    rw [hview] at h
    cases h
  | _ => rfl

theorem not_says_of_plain {p : Placed} (h : p.view.plain = true) {room : Nat}
    (hroom : p.room = room + 1) : ¬ Says name p.tree s := by
  obtain ⟨_, t⟩ := p
  cases hroom
  intro hsays
  cases hsays <;> cases h

theorem required_iff {room : Nat} {t : Tree} :
    ((Record.read? [[name]] (⟨room + 1, t⟩ : Placed)).bind fun r => r.required 0 readString)
      = some s ↔ Says name t s := by
  generalize hp : (⟨room + 1, t⟩ : Placed) = p
  cases p.shape with
  | null =>
    cases hp
    exact iff_of_false nofun nofun
  | array =>
    cases hp
    exact required_array
  | object =>
    cases hp
    exact required_object
  | other hplain =>
    subst hp
    rw [read?_of_plain hplain]
    exact iff_of_false nofun (not_says_of_plain hplain rfl)

end BlockMail.Json
