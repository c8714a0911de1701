import BlockMail.Json.Record

/-! # Layer by layer

What a value is written as, whether as itself or as a text, shows the value layer by layer:
`Writes`.  So a reader that asks for the layers one by one cannot tell the two apart.
-/

namespace BlockMail.Json

/-- A way to put values into a source in which `room` more containers may be open at once: nulls,
    texts, whole numbers and objects are found there as they were. -/
structure Writes {α : Type} [Source α] (write : Nat → Value → α) : Prop where
  null (room : Nat) : view (write room .null) = .null
  string (room : Nat) (s : String) : view (write room (.string s)) = .string s
  int64 (room : Nat) (n : Int64) : view (write room (.integer n.toInt)) = .integer n.toInt
  object (room : Nat) (members : List (String × Value)) :
    view (write (room + 1) (.object members))
      = .object (members.map fun m => (m.1, write room m.2)) true

/-- A value as it stands. -/
def asItself (_ : Nat) (v : Value) : Value := v

theorem writes_asItself : Writes asItself where
  null _ := rfl
  string _ _ := rfl
  int64 _ _ := rfl
  object _ members := congrArg (View.object · true) (List.map_id members).symm

/-! ## Plain types -/

variable {α : Type} [Source α] {write : Nat → Value → α}

theorem Writes.readString (h : Writes write) (room : Nat) (s : String) :
    Json.readString (write room (.string s)) = some s := by
  rw [Json.readString, h.string]

theorem Writes.readText? (h : Writes write) (room : Nat) (s : Option String) :
    readNullable Json.readString (write room (.ofText? s)) = some s := by
  cases s with
  | none => simp [readNullable, isNull, Value.ofText?, h.null]
  | some s => simp [readNullable, isNull, Value.ofText?, h.string, h.readString]

theorem Writes.readInt64 (h : Writes write) (room : Nat) (n : Int64) :
    Json.readInt64 (write room (.integer n.toInt)) = some n := by
  have hrange : Int64.minValue.toInt ≤ n.toInt ∧ n.toInt ≤ Int64.maxValue.toInt :=
    ⟨Int64.minValue_le_toInt n, Int64.toInt_le n⟩
  rw [Json.readInt64, h.int64]
  simp only [if_pos hrange, Int64.ofInt_toInt]

theorem Writes.readInt64? (h : Writes write) (room : Nat) (n : Option Int64) :
    readNullable Json.readInt64 (write room (.ofInt64? n)) = some n := by
  cases n with
  | none => simp [readNullable, isNull, Value.ofInt64?, h.null]
  | some n => simp [readNullable, isNull, Value.ofInt64?, h.int64, h.readInt64]

end BlockMail.Json
