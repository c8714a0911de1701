/-! # Dictionaries

Maps from strings, kept as a list in ascending code-point order of the keys.
The order is part of the type, so two dictionaries with the same bindings are
equal however they were put together:

- `insert` binds a key, replacing what the key was bound to;
- `ofList` inserts from left to right, so of two bindings of a key the later
  one stays;
- `erase` unbinds a key;
- `get?` looks a key up.
-/

namespace BlockMail

universe u v

/-- Bindings in ascending order of their keys. -/
structure Dict (α : Type u) where
  entries : List (String × α)
  sorted : entries.Pairwise (fun a b => a.1 < b.1) := by simp

namespace Dict

variable {α : Type u} {β : Type v}

def empty : Dict α := ⟨[], .nil⟩

instance : EmptyCollection (Dict α) := ⟨empty⟩

instance : Inhabited (Dict α) := ⟨empty⟩

/-- Two dictionaries with the same entries are equal. -/
@[ext] theorem ext {d e : Dict α} (h : d.entries = e.entries) : d = e := by
  cases d; cases e; cases h; rfl

instance [DecidableEq α] : DecidableEq (Dict α) := fun d e =>
  if h : d.entries = e.entries then isTrue (ext h)
  else isFalse (fun he => h (he ▸ rfl))

/-- Puts a binding at its place in a sorted list. -/
def insertEntry (key : String) (value : α) : List (String × α) → List (String × α)
  | [] => [(key, value)]
  | e :: es =>
    if key < e.1 then (key, value) :: e :: es
    else if key = e.1 then (key, value) :: es
    else e :: insertEntry key value es

theorem mem_insertEntry {key : String} {value : α} {x : String × α} :
    ∀ {es : List (String × α)}, x ∈ insertEntry key value es → x = (key, value) ∨ x ∈ es
  | [], h => by simpa [insertEntry] using h
  | e :: es, h => by
    unfold insertEntry at h
    split at h
    · simpa using h
    · split at h
      · rcases List.mem_cons.1 h with h | h
        · exact .inl h
        · exact .inr (List.mem_cons_of_mem _ h)
      · rcases List.mem_cons.1 h with h | h
        · exact .inr (h ▸ List.mem_cons_self)
        · rcases mem_insertEntry h with h | h
          · exact .inl h
          · exact .inr (List.mem_cons_of_mem _ h)

/-- Inserting at its place keeps the list sorted. -/
theorem sorted_insertEntry {key : String} {value : α} :
    ∀ {es : List (String × α)}, es.Pairwise (fun a b => a.1 < b.1) →
      (insertEntry key value es).Pairwise (fun a b => a.1 < b.1)
  | [], _ => by simp [insertEntry]
  | e :: es, h => by
    obtain ⟨he, hes⟩ := List.pairwise_cons.1 h
    unfold insertEntry
    split
    · rename_i hlt
      refine List.pairwise_cons.2 ⟨fun x hx => ?_, h⟩
      rcases List.mem_cons.1 hx with hx | hx
      · exact hx ▸ hlt
      · exact String.lt_trans hlt (he x hx)
    · split
      · rename_i heq
        exact List.pairwise_cons.2 ⟨fun x hx => heq ▸ he x hx, hes⟩
      · rename_i hnlt hne
        refine List.pairwise_cons.2 ⟨fun x hx => ?_, sorted_insertEntry hes⟩
        rcases mem_insertEntry hx with hx | hx
        · subst hx
          exact Std.lt_of_le_of_ne (String.not_lt.1 hnlt) (fun h => hne h.symm)
        · exact he x hx

/-- Binds `key` to `value`, whatever it was bound to before. -/
def insert (d : Dict α) (key : String) (value : α) : Dict α :=
  ⟨insertEntry key value d.entries, sorted_insertEntry d.sorted⟩

/-- What `key` is bound to. -/
def get? (d : Dict α) (key : String) : Option α :=
  (d.entries.find? (·.1 == key)).map (·.2)

def erase (d : Dict α) (key : String) : Dict α :=
  ⟨d.entries.filter (·.1 != key), d.sorted.filter _⟩

/-- All bindings, inserted from left to right. -/
def ofList (pairs : List (String × α)) : Dict α :=
  pairs.foldl (fun d p => d.insert p.1 p.2) empty

def size (d : Dict α) : Nat := d.entries.length

/-! ## Looking up -/

@[simp] theorem get?_empty (key : String) : (empty : Dict α).get? key = none := rfl

theorem find?_insertEntry (key key' : String) (value : α) :
    ∀ es : List (String × α), ((insertEntry key value es).find? (·.1 == key')).map (·.2)
      = if key = key' then some value else (es.find? (·.1 == key')).map (·.2)
  | [] => by by_cases h : key = key' <;> simp [insertEntry, h]
  | e :: es => by
    unfold insertEntry
    split
    · by_cases h : key = key' <;> simp [List.find?_cons, h]
    · split
      · rename_i heq
        by_cases h : key = key' <;> simp [← heq, h]
      · rename_i hne
        have ih := find?_insertEntry key key' value es
        by_cases h : e.1 = key'
        · have hk : key ≠ key' := fun hk => hne (hk.trans h.symm)
          simp [h, hk]
        · simp only [List.find?_cons, beq_eq_false_iff_ne.2 h]
          exact ih

theorem get?_insert (d : Dict α) (key key' : String) (value : α) :
    (d.insert key value).get? key' = if key = key' then some value else d.get? key' :=
  find?_insertEntry key key' value d.entries

theorem find?_filter_ne (key key' : String) (es : List (String × α)) :
    (es.filter (·.1 != key)).find? (·.1 == key')
      = if key = key' then none else es.find? (·.1 == key') := by
  induction es with
  | nil => simp
  | cons e es ih =>
    by_cases he : e.1 = key
    · by_cases h : key = key'
      · simp [he, h]
      · simpa [he, h] using ih
    · by_cases h' : e.1 = key'
      · have h : key ≠ key' := fun h => he (h'.trans h.symm)
        simp [h', h, Ne.symm h]
      · simpa [he, h'] using ih

/-- Looking up after a key has been unbound. -/
theorem get?_erase (d : Dict α) (key key' : String) :
    (d.erase key).get? key' = if key = key' then none else d.get? key' := by
  unfold get? erase
  rw [find?_filter_ne]
  split <;> rfl

/-! ## Dictionaries of lists -/

theorem get?_foldl_insert (pairs : List (String × α)) (d : Dict α) (key : String) :
    (pairs.foldl (fun d p => d.insert p.1 p.2) d).get? key
      = ((pairs.reverse.find? (·.1 == key)).map (·.2)).or (d.get? key) := by
  induction pairs generalizing d with
  | nil => rfl
  | cons p pairs ih =>
    rw [List.foldl_cons, ih, get?_insert, List.reverse_cons, List.find?_append]
    by_cases hkey : p.1 = key <;> cases pairs.reverse.find? (·.1 == key) <;> simp [hkey]

/-- A key is bound to what the last of its pairs says. -/
theorem get?_ofList (pairs : List (String × α)) (key : String) :
    (ofList pairs).get? key = (pairs.reverse.find? (·.1 == key)).map (·.2) := by
  rw [ofList, get?_foldl_insert, get?_empty, Option.or_none]

/-- A key that is listed once is bound to what is listed for it. -/
theorem get?_ofList_cons {key : String} {pairs : List (String × α)} (value : α)
    (h : ∀ p ∈ pairs, p.1 ≠ key) : (ofList ((key, value) :: pairs)).get? key = some value := by
  have hnone : pairs.reverse.find? (·.1 == key) = none := by
    rw [List.find?_eq_none]
    intro p hp
    simp [h p (List.mem_reverse.mp hp)]
  simp [get?_ofList, List.find?_append, hnone]

theorem mem_foldl_insert {pairs : List (String × α)} {d : Dict α} {x : String × α}
    (h : x ∈ (pairs.foldl (fun d p => d.insert p.1 p.2) d).entries) :
    x ∈ pairs ∨ x ∈ d.entries := by
  induction pairs generalizing d with
  | nil => exact .inr h
  | cons p pairs ih =>
    rcases ih h with h | h
    · exact .inl (List.mem_cons_of_mem _ h)
    · rcases mem_insertEntry h with rfl | h
      · exact .inl List.mem_cons_self
      · exact .inr h

theorem mem_ofList {pairs : List (String × α)} {x : String × α}
    (h : x ∈ (ofList pairs).entries) : x ∈ pairs :=
  (mem_foldl_insert h).resolve_right List.not_mem_nil

/-- No key is lost. -/
theorem exists_entry_of_mem {pairs : List (String × α)} {x : String × α} (h : x ∈ pairs) :
    ∃ y ∈ (ofList pairs).entries, y.1 = x.1 := by
  have hfound : ((ofList pairs).get? x.1).isSome := by
    rw [get?_ofList, Option.isSome_map, List.find?_isSome]
    exact ⟨x, List.mem_reverse.mpr h, beq_self_eq_true x.1⟩
  rw [get?, Option.isSome_map, List.find?_isSome] at hfound
  obtain ⟨y, hy, hkey⟩ := hfound
  exact ⟨y, hy, eq_of_beq hkey⟩

end Dict

end BlockMail
