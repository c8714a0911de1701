import BlockMail.Block.Reading

/-! # Entries of a block list

A document lists its blocks as entries `{id, type, order, data}`.  An entry that
does not make a block is dropped with a notice, and never costs another entry.

- `BlockEntry.toBlock` is the block of one entry, or the notice.
- `Block.ofEntries` and `Block.ofValues` are the blocks of a list of entries and
  of a list of JSON values of which not all need be entries.
- `noticesOf` are the notices about such a list: first the values that are no
  entries, then the entries that are no blocks.
-/

namespace BlockMail

open Json (Source Record Field)

/-- A block as it is listed in a document. -/
structure BlockEntry where
  id : String := ""
  typeName : Option String := none
  order : Int64 := 0
  data : Json.Value := .null
  deriving Inhabited

namespace BlockEntry

variable {α : Type} [Source α]

def fields : List Field := [["id"], ["type"], ["order"], ["data"]]

/-- The payload, which may be anything; `null` where it is missing. -/
def readData (r : Record α) : Option Json.Value :=
  match r.slot? 3 with
  | none => some .null
  | some a => Json.value? a

def read (a : α) : Option BlockEntry := do
  let r ← Record.read? fields a
  return {
    id := ← r.orElse 0 "" Json.readString
    typeName := ← r.optional 1 Json.readString
    order := ← r.orElse 2 0 Json.readInt64
    data := ← readData r }

def toJson (e : BlockEntry) : Json.Value :=
  .object
    [ ("id", .string e.id), ("type", .ofText? e.typeName),
      ("order", .integer e.order.toInt), ("data", e.data) ]

/-- Reads a list all of whose items are entries. -/
def readAll (a : α) : Option (List BlockEntry) :=
  match Json.readItems a with
  | none => none
  | some items => items.mapM read

end BlockEntry

/-- A notice that something in a block list was dropped. -/
inductive Notice where
  /-- The item at a position of the list is no entry. -/
  | undecodable (index : Nat)
  | untyped (id : String)
  | unknownType (id typeName : String)
  | malformed (id typeName : String)
  deriving DecidableEq, Repr, Inhabited

/-- The block of an entry, or why it makes none. -/
def BlockEntry.toBlock (e : BlockEntry) : Except Notice Block :=
  match e.typeName with
  | none => .error (.untyped e.id)
  | some typeName =>
    -- the type is looked at before the payload, so an unknown type is never malformed
    match BlockKind.read typeName e.data with
    | .ok kind => .ok ⟨e.id, e.order, kind⟩
    | .error .unknownType => .error (.unknownType e.id typeName)
    | .error .malformed => .error (.malformed e.id typeName)

/-- The notice that an entry gives rise to, if any. -/
def BlockEntry.notice? (e : BlockEntry) : Option Notice :=
  match e.toBlock with
  | .ok _ => none
  | .error n => some n

/-- The blocks of those entries that make one. -/
def Block.ofEntries (entries : List BlockEntry) : List Block :=
  entries.filterMap fun e => e.toBlock.toOption

/-- The blocks of those values that are entries and make one. -/
def Block.ofValues (values : List Json.Value) : List Block :=
  Block.ofEntries (values.filterMap BlockEntry.read)

/-- What there is to say about a list of values that should be entries. -/
def noticesOf (values : List Json.Value) : List Notice :=
  (values.zipIdx.filterMap fun (v, i) =>
    if (BlockEntry.read v).isNone then some (.undecodable i) else none)
  ++ (values.filterMap BlockEntry.read).filterMap BlockEntry.notice?

/-- Reads a list of values of any kind; `null` is the empty list. -/
def readValues {α : Type} [Source α] (a : α) : Option (List Json.Value) :=
  if Json.isNull a then some []
  else match Json.readItems a with
    | none => none
    | some items => items.mapM Json.value?

end BlockMail
