import BlockMail.Json.Source

/-! # Structures in JSON

A structure is an object, or an array of its fields in the order they are
declared in.  A `Field` is the list of names by which a member may be called;
the first is the one that is written.

- `arrivals` goes through an object and notes which field each member is for.
  It stops at the first fault: a field that comes twice, under one name or two,
  or a name that is no text.  Members that are for no field are passed over.
- `Record.read?` is all the fields of a structure without a fault.
- `optional`, `orElse` and `required` read one field of a record.
-/

namespace BlockMail.Json

/-- The names of a field. -/
abbrev Field := List String

/-- Position of the field that a name belongs to. -/
def fieldOf? (fields : List Field) (name : String) : Option Nat :=
  fields.findIdx? (·.contains name)

/-- What is written for the fields of a structure, in the order of the text: the
    position of each field and its source. -/
structure Arrivals (α : Type) where
  fields : List (Nat × α)
  /-- No fault was met. -/
  sound : Bool

variable {α β : Type}

/-- The fields that members are for, up to the first that has come before. -/
def arrivalsFrom (fields : List Field) (seen : List Nat) : List (String × α) → Arrivals α
  | [] => ⟨[], true⟩
  | (name, a) :: members =>
    match fieldOf? fields name with
    -- a name of no field is passed over
    | none => arrivalsFrom fields seen members
    | some i =>
      if i ∈ seen then ⟨[], false⟩
      else
        let rest := arrivalsFrom fields (i :: seen) members
        ⟨(i, a) :: rest.fields, rest.sound⟩

/-- The fields that the items of an array are for, by their positions. -/
def arrivalsInOrder (fields : List Field) (items : List α) : Arrivals α :=
  ⟨((List.range fields.length).zip items), items.length ≤ fields.length⟩

variable [Source α]

/-- The fields that a source holds, or nothing if it is neither an object nor an
    array. -/
def arrivals? (fields : List Field) (a : α) : Option (Arrivals α) :=
  match view a with
  | .object members sound =>
    let found := arrivalsFrom fields [] members
    some ⟨found.fields, found.sound && sound⟩
  | .array items => some (arrivalsInOrder fields items)
  | _ => none

/-- The fields of a structure that are written, by their positions. -/
structure Record (α : Type) where
  slots : List (Nat × α)

namespace Record

/-- The fields of a structure that is written without a fault. -/
def read? (fields : List Field) (a : α) : Option (Record α) :=
  match arrivals? fields a with
  | some ⟨slots, true⟩ => some ⟨slots⟩
  | _ => none

/-- What is written for the field at a position. -/
def slot? (r : Record α) (i : Nat) : Option α :=
  (r.slots.find? (·.1 == i)).map (·.2)

/-- A field that may be missing or `null`. -/
def optional (r : Record α) (i : Nat) (item : α → Option β) : Option (Option β) :=
  match r.slot? i with
  | none => some none
  | some a => readNullable item a

/-- A field that has the value `default` if it is missing or `null`. -/
def orElse (r : Record α) (i : Nat) (default : β) (item : α → Option β) : Option β :=
  (r.optional i item).map (·.getD default)

/-- A field that must be there. -/
def required (r : Record α) (i : Nat) (item : α → Option β) : Option β :=
  match r.slot? i with
  | none => none
  | some a => item a

end Record

end BlockMail.Json
