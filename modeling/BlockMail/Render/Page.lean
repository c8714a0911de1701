import BlockMail.Render.Html
import BlockMail.Render.Options
import BlockMail.Render.Stylesheet

/-! # The page around the blocks

A message is a complete HTML document: a head with the style sheet, a container
with the fragments of the blocks in it, and a line with the link to unsubscribe.
-/

namespace BlockMail.Render

open Html (Node newline)

def metaElement (attributes : List (String × String)) : Node :=
  .voidElement "meta" attributes

/-- The head of the page. -/
def pageHead (title : String) : Node :=
  .element "head" []
    [ newline,
      metaElement [("charset", "utf-8")], newline,
      metaElement
        [("name", "viewport"), ("content", "width=device-width, initial-scale=1.0")], newline,
      metaElement
        [("http-equiv", "Content-Type"), ("content", "text/html; charset=UTF-8")], newline,
      metaElement [("name", "x-apple-disable-message-reformatting"), ("content", "")], newline,
      metaElement
        [ ("name", "format-detection"),
          ("content", "telephone=no,address=no,email=no,date=no,url=no") ], newline,
      .element "title" [] [.text title], newline,
      .element "style" [] [.text stylesheet], newline ]

def previewDot (color : String) : Node :=
  classDiv ("email-header-dot dot-" ++ color) []

/-- The bar above a preview. -/
def previewBar : List Node :=
  [ classDiv "email-header"
      [ newline,
        classDiv "email-header-dots" [previewDot "red", previewDot "yellow", previewDot "green"],
        newline,
        .element "span" [("style", "font-size: 14px; font-weight: 500;")]
          [.text "Email Preview"],
        newline ],
    newline ]

/-- The line that mail programs show in their lists; hidden in the message. -/
def preheaderNodes (preheader : String) : List Node :=
  [ .element "div"
      [("style", "display: none; font-size: 1px; color: #fefefe; line-height: 1px; "
        ++ "font-family: Arial, sans-serif; max-height: 0px; max-width: 0px; opacity: 0; "
        ++ "overflow: hidden;")]
      [.text preheader],
    newline ]

/-- The line with the link to unsubscribe. -/
def unsubscribeLine (o : Options) : Node :=
  .element "div"
    [("style", "text-align: center; padding: 20px; font-size: 12px; color: #9ca3af;")]
    [ newline,
      .element "p" [("style", "margin: 0;")]
        [ .text ("This email was sent by " ++ o.senderLabel ++ ". "),
          .element "a"
            [ ("href", "mailto:" ++ o.unsubscribeAddress ++ "?subject=unsubscribe"),
              ("style", "color: #9ca3af;") ]
            [.text "Unsubscribe"] ],
      newline ]

/-- The area with the blocks, which are given as nodes. -/
def pageBody (preheader : Option String) (blocks : List Node) (o : Options) : Node :=
  .element "body" []
    [ newline,
      classDiv "email-container"
        (newline
          :: (if o.preview then previewBar else [])
          ++ [ classDiv "email-body"
                (newline
                  :: (match preheader with
                    | some preheader => preheaderNodes preheader
                    | none => [])
                  ++ blocks),
               newline ]),
      newline,
      unsubscribeLine o,
      newline ]

/-- A complete page. -/
def page (title : String) (preheader : Option String) (blocks : List Node) (o : Options) :
    List Node :=
  [ .doctype, newline,
    .element "html" [("lang", "en")]
      [newline, pageHead title, newline, pageBody preheader blocks o, newline],
    newline ]

end BlockMail.Render
