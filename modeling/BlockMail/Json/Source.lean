import BlockMail.Dict
import BlockMail.Json.Tree

/-! # Sources

Structures are read from JSON of two forms: straight from a text, where names may
repeat and unknown members are skipped unread, and from a `Value` that has been
read in full before.  `Source` is what the two have in common, so that every
structure is described once:

- `view` shows the outermost layer;
- `value?` reads everything below as a `Value`.

From a text, only so many containers may be open at once.  `Placed` is a tree
together with how many more may be opened.
-/

namespace BlockMail.Json

/-- The outermost layer of a source. -/
inductive View (α : Type) where
  | null
  | bool (b : Bool)
  | integer (n : Int)
  /-- A number that is no integer. -/
  | decimal
  | string (s : String)
  | array (items : List α)
  /-- The members up to the first whose name is no text; `sound` says that there
      is none such. -/
  | object (members : List (String × α)) (sound : Bool)
  /-- Something that cannot be read. -/
  | unreadable

/-- JSON that structures can be read from. -/
class Source (α : Type) where
  view : α → View α
  value? : α → Option Value

export Source (view value?)

/-! ## Values as sources -/

/-- The outermost layer of a value. -/
def Value.view : Value → View Value
  | .null => .null
  | .bool b => .bool b
  | .number (.integer n) => .integer n
  | .number (.decimal _ _ _) => .decimal
  | .string s => .string s
  | .array items => .array items
  | .object members => .object members true

instance : Source Value := ⟨Value.view, some⟩

/-! ## Texts as sources -/

mutual

/-- The value of a tree in which at most `room` containers are open at once,
    numbers are in range and strings are texts.  Of members with the same name
    the last stays. -/
def Tree.value? (room : Nat) : Tree → Option Value
  | .null => some .null
  | .bool b => some (.bool b)
  | .number n => n.number?.map .number
  | .string us => (textOf? us).map .string
  | .array items =>
    match room with
    | 0 => none
    | room + 1 => (itemValues? room items).map .array
  | .object members =>
    match room with
    | 0 => none
    -- of two members of one name the last one counts
    | room + 1 => (memberValues? room members).map fun ms => .object (Dict.ofList ms).entries

/-- The values of the items of an array. -/
def itemValues? (room : Nat) : List Tree → Option (List Value)
  | [] => some []
  | t :: ts => do
    let v ← Tree.value? room t
    let vs ← itemValues? room ts
    return v :: vs

/-- The values of the members of an object, in the order they are written. -/
def memberValues? (room : Nat) : List (List StringUnit × Tree) → Option (List (String × Value))
  | [] => some []
  | (us, t) :: ms => do
    let name ← textOf? us
    let v ← Tree.value? room t
    let vs ← memberValues? room ms
    return (name, v) :: vs

end

/-- A tree below which `room` more containers may be open at once. -/
structure Placed where
  room : Nat
  tree : Tree

/-- A text may have 127 containers open at once. -/
def nestingLimit : Nat := 127

/-- A tree as the outermost value of a text. -/
def Tree.outermost (t : Tree) : Placed := ⟨nestingLimit, t⟩

/-- The members up to the first whose name is no text, and whether there is none
    such. -/
def namedMembers (room : Nat) :
    List (List StringUnit × Tree) → List (String × Placed) × Bool
  | [] => ([], true)
  | (us, t) :: ms =>
    match textOf? us with
    | none => ([], false)
    | some name => ((name, ⟨room, t⟩) :: (namedMembers room ms).1, (namedMembers room ms).2)

/-- The outermost layer of a placed tree. -/
def Placed.view (p : Placed) : View Placed :=
  match p.tree with
  | .null => .null
  | .bool b => .bool b
  | .number n =>
    match n.number? with
    | some (.integer n) => .integer n
    | some (.decimal _ _ _) => .decimal
    -- out of the range of any number
    | none => .unreadable
  | .string us =>
    match textOf? us with
    | some s => .string s
    -- half a pair of units is no character
    | none => .unreadable
  | .array items =>
    match p.room with
    -- nested too deep
    | 0 => .unreadable
    | room + 1 => .array (items.map (⟨room, ·⟩))
  | .object members =>
    match p.room with
    | 0 => .unreadable
    | room + 1 => .object (namedMembers room members).1 (namedMembers room members).2

instance : Source Placed := ⟨Placed.view, fun p => p.tree.value? p.room⟩

/-! ## Plain types -/

variable {α β : Type} [Source α]

/-- Whether the source is `null`. -/
def isNull (a : α) : Bool :=
  match view a with
  | .null => true
  | _ => false

/-- A text. -/
def readString (a : α) : Option String :=
  match view a with
  | .string s => some s
  | _ => none

/-- A truth value. -/
def readBool (a : α) : Option Bool :=
  match view a with
  | .bool b => some b
  | _ => none

/-- A whole number of 64 bits with a sign. -/
def readInt64 (a : α) : Option Int64 :=
  match view a with
  | .integer n =>
    if Int64.minValue.toInt ≤ n ∧ n ≤ Int64.maxValue.toInt then some (Int64.ofInt n) else none
  | _ => none

/-- A whole number of 32 bits without a sign. -/
def readUInt32 (a : α) : Option UInt32 :=
  match view a with
  | .integer n => if 0 ≤ n ∧ n < UInt32.size then some (UInt32.ofNat n.toNat) else none
  | _ => none

/-- The items of an array. -/
def readItems (a : α) : Option (List α) :=
  match view a with
  | .array items => some items
  | _ => none

/-- A dictionary: an object all of whose members are read by `item`, even those
    that a later member of the same name replaces. -/
def readDict (item : α → Option β) (a : α) : Option (Dict β) :=
  match view a with
  | .object members true =>
    (members.mapM fun m => (item m.2).map fun b => (m.1, b)).map Dict.ofList
  | _ => none

/-- `null`, or what `item` reads. -/
def readNullable (item : α → Option β) (a : α) : Option (Option β) :=
  if isNull a then some none else (item a).map some

end BlockMail.Json
