import BlockMail.Block.Entry
import BlockMail.Branding
import BlockMail.Context

/-! # Documents

Everything that is needed to render one message.

A document is read from a text, field by field in the order of the text:

- `Document.read` is the document, if the text is sound and every field can be
  read;
- `Document.notices` is what was said about the block list on the way.  The list
  is read as soon as the text comes to it, so the notices are there even if a
  later field cannot be read or the text breaks off behind the list; but not if
  an earlier field cannot be read.
-/

namespace BlockMail

open Json (Source Record Field Reading)

/-- A template with the values to fill in and the branding to use. -/
structure Document where
  subject : String := ""
  preheader : Option String := none
  blocks : List Block := []
  data : Context := ∅
  branding : Option Branding := none
  deriving DecidableEq, Inhabited

namespace Document

def fields : List Field :=
  [ ["subject"], ["preheader"], ["blocks"], ["data", "mockData"],
    ["branding", "organizationSettings"] ]

/-- The position of the block list among the fields. -/
def blocksField : Nat := 2

variable {α : Type} [Source α]

/-- Reads the block list. -/
def readBlocks (a : α) : Option (List Block) :=
  (readValues a).map Block.ofValues

/-- Reads a document from a source. -/
def ofSource? (a : α) : Option Document := do
  let r ← Record.read? fields a
  return {
    subject := ← r.orElse 0 "" Json.readString
    preheader := ← r.optional 1 Json.readString
    blocks := (← r.optional blocksField readBlocks).getD []
    data := ← r.orElse 3 ∅ Context.read
    branding := ← r.optional 4 Branding.read }

/-- Whether what is written for the field at a position can be read. -/
def fits (i : Nat) (a : α) : Bool :=
  match i with
  | 0 => (Json.readNullable Json.readString a).isSome
  | 1 => (Json.readNullable Json.readString a).isSome
  | 2 => (readValues a).isSome
  | 3 => (Json.readNullable Context.read a).isSome
  | 4 => (Json.readNullable Branding.read a).isSome
  | _ => false

/-- The notices about the block list among fields in the order of the text: none
    if a field before the list cannot be read. -/
def noticesAmong : List (Nat × α) → List Notice
  | [] => []
  | (i, a) :: rest =>
    -- the notices are those of the first block list, and a field before it that does not fit
    -- spoils the document
    if i = blocksField then
      match readValues a with
      | some values => noticesOf values
      | none => []
    else if fits i a then noticesAmong rest
    else []

/-- The notices about the block list of a source. -/
def noticesIn (a : α) : List Notice :=
  match Json.arrivals? fields a with
  | some found => noticesAmong found.fields
  | none => []

/-- The document that a text describes. -/
def read (r : Reading) : Option Document :=
  match r.tree? with
  | some t => ofSource? t.outermost
  | none => none

/-- What is said about the block list while a text is read. -/
def notices (r : Reading) : List Notice :=
  match r.shown with
  | some t => noticesIn t.outermost
  | none => []

end Document

end BlockMail
