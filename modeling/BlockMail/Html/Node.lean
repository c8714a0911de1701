/-! # Markup

Pieces of an HTML document.  `Node.print` writes them out: texts and attribute
values are copied as they are, without any escaping, and `raw` markup is copied
too.  Void elements have no content and no closing tag.
-/

namespace BlockMail.Html

/-- A piece of a document. -/
inductive Node where
  | text (s : String)
  /-- Markup that is copied, whatever it contains. -/
  | raw (markup : String)
  | element (tag : String) (attributes : List (String × String)) (content : List Node)
  | voidElement (tag : String) (attributes : List (String × String))
  /-- The declaration that a document opens with. -/
  | doctype
  deriving Inhabited

/-- Attributes, each after a blank. -/
def printAttributes : List (String × String) → String
  | [] => ""
  | (name, value) :: rest => " " ++ name ++ "=\"" ++ value ++ "\"" ++ printAttributes rest

def openingTag (tag : String) (attributes : List (String × String)) : String :=
  "<" ++ tag ++ printAttributes attributes ++ ">"

def closingTag (tag : String) : String :=
  "</" ++ tag ++ ">"

mutual

/-- The markup of a piece. -/
def Node.print : Node → String
  | .text s => s
  | .raw markup => markup
  | .element tag attributes content =>
    openingTag tag attributes ++ printAll content ++ closingTag tag
  | .voidElement tag attributes => openingTag tag attributes
  | .doctype => "<!DOCTYPE html>"

/-- The markup of pieces that follow each other. -/
def printAll : List Node → String
  | [] => ""
  | n :: ns => n.print ++ printAll ns

end

@[simp] theorem printAll_nil : printAll [] = "" := by simp [printAll]

@[simp] theorem printAll_cons (n : Node) (ns : List Node) :
    printAll (n :: ns) = n.print ++ printAll ns := by simp [printAll]

/-- Pieces are printed one after the other. -/
theorem printAll_append (ns ms : List Node) :
    printAll (ns ++ ms) = printAll ns ++ printAll ms := by
  induction ns with
  | nil => simp
  | cons n ns ih => simp [ih, String.append_assoc]

/-- A line break between pieces. -/
def newline : Node := .text "\n"

end BlockMail.Html
