import BlockMail.Document
import BlockMail.Render.Page
import BlockMail.Render.PlainText

/-! # Rendering a document

A document is rendered into a subject, an HTML page and a plain text.  Both
bodies are made from the same arrangement of the blocks.
-/

namespace BlockMail.Render

open Placeholder (resolve resolve?)

/-- A rendered document. -/
structure Message where
  subject : String
  html : String
  text : String
  deriving DecidableEq, Repr, Inhabited

/-- The nodes of all blocks, in order. -/
def blockArea (blocks : List Block) (c : Context) (branding : Option Branding) :
    List Html.Node :=
  (inRenderOrder blocks).flatMap fun b => fragment b.kind c branding

def documentPage (d : Document) (o : Options) : List Html.Node :=
  page (resolve d.subject d.data) (resolve? d.preheader d.data)
    (blockArea d.blocks d.data d.branding) o

/-- Renders a document. -/
def render (d : Document) (o : Options) : Message :=
  { subject := resolve d.subject d.data
    html := Html.printAll (documentPage d o)
    text := plainText d.blocks d.data d.branding }

end BlockMail.Render
