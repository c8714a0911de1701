import BlockMail.Dict
import BlockMail.Json.Source
import BlockMail.Text.Blank

/-! # Data contexts

The values that one message is filled in with.  A key that is absent and a key
bound to the empty string are the same thing to whoever asks: `get?` answers
with non-empty values only, and `getNonBlank?` with values worth printing.
-/

namespace BlockMail

/-- Placeholder keys and their values. -/
abbrev Context := Dict String

namespace Context

/-- The value of a key, if it is not empty. -/
def get? (c : Context) (key : String) : Option String :=
  Text.present? (Dict.get? c key)

/-- The value of a key, if it is not blank. -/
def getNonBlank? (c : Context) (key : String) : Option String :=
  Text.nonBlank? (Dict.get? c key)

def read {α : Type} [Json.Source α] (a : α) : Option Context :=
  Json.readDict Json.readString a

def toJson (c : Context) : Json.Value :=
  .object (c.entries.map fun e => (e.1, .string e.2))

end Context

end BlockMail
