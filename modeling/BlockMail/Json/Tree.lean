import BlockMail.Json.Token

/-! # JSON texts as trees

A text is read into the tree of what is written: names may repeat, numbers may
be out of range, strings may hold units that make up no character, and nothing
limits how deep arrays and objects nest.

The reader is an automaton over tokens.  Its state, a `Builder`, says what may
come next and holds the containers that are still open.  When a text goes wrong
the state reached is not lost: `read` shows the outermost container with the
entries that were complete by then.
-/

namespace BlockMail.Json

/-- A value as written. -/
inductive Tree where
  | null
  | bool (b : Bool)
  | number (n : Numeral)
  | string (units : List StringUnit)
  | array (items : List Tree)
  | object (members : List (List StringUnit × Tree))
  deriving Inhabited

/-- A container that waits for a value to be completed; its entries so far, the
    newest first. -/
inductive Frame where
  | array (items : List Tree)
  | member (members : List (List StringUnit × Tree)) (name : List StringUnit)

/-- The container with the entries it has. -/
def Frame.container : Frame → Tree
  | .array items => .array items.reverse
  | .member members _ => .object members.reverse

/-- What has been read, by what may come next. -/
inductive Builder where
  /-- A value. -/
  | value (waiting : List Frame)
  /-- The first item of an array, or its end. -/
  | firstItem (waiting : List Frame)
  /-- A comma or the end of an array. -/
  | item (items : List Tree) (waiting : List Frame)
  /-- The first name in an object, or its end. -/
  | firstName (waiting : List Frame)
  /-- A name. -/
  | name (members : List (List StringUnit × Tree)) (waiting : List Frame)
  /-- The colon after a name. -/
  | colon (members : List (List StringUnit × Tree)) (name : List StringUnit) (waiting : List Frame)
  /-- A comma or the end of an object. -/
  | member (members : List (List StringUnit × Tree)) (waiting : List Frame)
  /-- Nothing. -/
  | finished (t : Tree)

namespace Builder

/-- Hands a complete value to the container that waits for it. -/
def put (t : Tree) : List Frame → Builder
  | [] => .finished t
  | .array items :: fs => .item (t :: items) fs
  | .member members label :: fs => .member ((label, t) :: members) fs

/-- Starts a value. -/
def start (fs : List Frame) : Token → Option Builder
  | .null => some (put .null fs)
  | .bool b => some (put (.bool b) fs)
  | .number n => some (put (.number n) fs)
  | .string us => some (put (.string us) fs)
  | .openArray => some (.firstItem fs)
  | .openObject => some (.firstName fs)
  | _ => none

/-- Takes one token; none if it may not come here. -/
def step : Builder → Token → Option Builder
  | .value fs, t => start fs t
  | .firstItem fs, .closeArray => some (put (.array []) fs)
  | .firstItem fs, t => start (.array [] :: fs) t
  | .item items fs, .comma => some (.value (.array items :: fs))
  -- the items were put in front one by one
  | .item items fs, .closeArray => some (put (.array items.reverse) fs)
  | .firstName fs, .closeObject => some (put (.object []) fs)
  | .firstName fs, .string us => some (.colon [] us fs)
  | .name members fs, .string us => some (.colon members us fs)
  | .colon members label fs, .colon => some (.value (.member members label :: fs))
  | .member members fs, .comma => some (.name members fs)
  | .member members fs, .closeObject => some (put (.object members.reverse) fs)
  | _, _ => none

/-- Takes tokens for as long as they may come; whether all could be taken. -/
def run : Builder → List Token → Builder × Bool
  | b, [] => (b, true)
  | b, t :: ts =>
    match b.step t with
    | some b => run b ts
    | none => (b, false)

/-- The outermost open container, or else the innermost, `inner`. -/
def outermostOf (inner : Tree) (fs : List Frame) : Tree :=
  (fs.getLast?.map Frame.container).getD inner

/-- The outermost value with what is complete of it; none before it starts. -/
def outermost? : Builder → Option Tree
  | .value fs => fs.getLast?.map Frame.container
  | .firstItem fs => some (outermostOf (.array []) fs)
  | .item items fs => some (outermostOf (.array items.reverse) fs)
  | .firstName fs => some (outermostOf (.object []) fs)
  | .name members fs => some (outermostOf (.object members.reverse) fs)
  | .colon members _ fs => some (outermostOf (.object members.reverse) fs)
  | .member members fs => some (outermostOf (.object members.reverse) fs)
  | .finished t => some t

/-- Whether a value is complete. -/
def isFinished : Builder → Bool
  | .finished _ => true
  | _ => false

end Builder

/-- What a text says: its outermost value, and whether the text is sound, that is
    one complete value and nothing else.  Of an unsound text only those entries
    are shown that were complete before the fault. -/
structure Reading where
  shown : Option Tree
  sound : Bool

def read (s : String) : Reading :=
  let (b, all) := (Builder.value []).run (tokens s.toList)
  ⟨b.outermost?, all && b.isFinished⟩

/-- The value of a sound text. -/
def Reading.tree? (r : Reading) : Option Tree :=
  if r.sound then r.shown else none

end BlockMail.Json
