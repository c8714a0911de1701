import BlockMail.Mail.Outbox
import BlockMail.Proofs.Mail.Observation

/-! # What is sent is what is rendered

A request that is reported as sent has left three copies of one rendering: the message that was
handed to the provider, the report, and what the document is rendered into without any mailer.
The mailer has a say in the subject alone.  A subject shows in the title of the page and nowhere
else in the bodies (`printAll_page`), so another subject makes no other difference.
-/

namespace BlockMail

namespace Render

open Html (Node newline printAll openingTag closingTag)

/-! ## The title of a page -/

/-- What stands in the head of a page before its title. -/
def headOpening : List Node :=
  [ newline,
    metaElement [("charset", "utf-8")], newline,
    metaElement
      [("name", "viewport"), ("content", "width=device-width, initial-scale=1.0")], newline,
    metaElement
      [("http-equiv", "Content-Type"), ("content", "text/html; charset=UTF-8")], newline,
    metaElement [("name", "x-apple-disable-message-reformatting"), ("content", "")], newline,
    metaElement
      [ ("name", "format-detection"),
        ("content", "telephone=no,address=no,email=no,date=no,url=no") ], newline ]

/-- The markup of a page in front of its title. -/
def beforeTitle : String :=
  printAll [.doctype, newline] ++ openingTag "html" [("lang", "en")] ++ printAll [newline]
    ++ openingTag "head" [] ++ printAll headOpening

/-- The title of a page. -/
def titleElement (title : String) : String :=
  "<title>" ++ title ++ "</title>"

/-- The markup of a page behind its title. -/
def behindTitle (preheader : Option String) (blocks : List Node) (o : Options) : String :=
  printAll [newline, .element "style" [] [.text stylesheet], newline] ++ closingTag "head"
    ++ printAll [newline, pageBody preheader blocks o, newline] ++ closingTag "html"
    ++ printAll [newline]

theorem print_title (title : String) :
    Node.print (.element "title" [] [.text title]) = titleElement title := by
  simp [Node.print, openingTag, closingTag, Html.printAttributes, titleElement]

theorem printAll_page (title : String) (preheader : Option String) (blocks : List Node)
    (o : Options) :
    printAll (page title preheader blocks o)
      = beforeTitle ++ titleElement title ++ behindTitle preheader blocks o := by
  have hhead : pageHead title = .element "head" []
      (headOpening ++ .element "title" [] [.text title]
        :: [newline, .element "style" [] [.text stylesheet], newline]) := rfl
  have htitle := print_title title
  generalize Node.element "title" [] [.text title] = node at hhead htitle
  simp only [page, hhead, beforeTitle, behindTitle, Html.printAll_cons, Html.printAll_nil,
    Html.printAll_append, Node.print, htitle, String.append_assoc, String.append_empty]

/-! ## The link to unsubscribe -/

/-- Where to write to be spared further messages. -/
def unsubscribeTarget (address : String) : String :=
  "mailto:" ++ address ++ "?subject=unsubscribe"

/-- The link to unsubscribe. -/
def unsubscribeLink (address : String) : String :=
  "<a href=\"" ++ unsubscribeTarget address ++ "\" style=\"color: #9ca3af;\">Unsubscribe</a>"

/-- What stands behind the link. -/
def pageEnd : String := "</p>\n</div>\n</body>\n</html>\n"

/-- What the markup of some pieces ends in. -/
def EndsIn (ending : String) (ns : List Node) : Prop :=
  ∃ front, printAll ns = front ++ ending

theorem EndsIn.cons {ending : String} {ns : List Node} (h : EndsIn ending ns) (n : Node) :
    EndsIn ending (n :: ns) := by
  obtain ⟨front, h⟩ := h
  refine ⟨n.print ++ front, ?_⟩
  rw [Html.printAll_cons, h, String.append_assoc]

theorem EndsIn.element {ending : String} {ns : List Node} (h : EndsIn ending ns) (tag : String)
    (attributes : List (String × String)) (rest : List Node) :
    EndsIn (ending ++ (closingTag tag ++ printAll rest)) (.element tag attributes ns :: rest) := by
  obtain ⟨front, h⟩ := h
  refine ⟨openingTag tag attributes ++ front, ?_⟩
  rw [Html.printAll_cons, Node.print, h]
  simp only [String.append_assoc]

theorem print_unsubscribeLink (address : String) :
    Node.print (.element "a"
        [("href", unsubscribeTarget address), ("style", "color: #9ca3af;")] [.text "Unsubscribe"])
      = unsubscribeLink address := by
  have hopening : "<" ++ "a" ++ (" " ++ "href" ++ "=\"") = "<a href=\"" := by decide
  simp only [Node.print, openingTag, closingTag, Html.printAttributes, unsubscribeLink,
    Html.printAll_cons, Html.printAll_nil, ← hopening, String.append_assoc, String.append_empty]
  rfl

theorem page_endsIn (title : String) (preheader : Option String) (blocks : List Node)
    (o : Options) :
    EndsIn (unsubscribeLink o.unsubscribeAddress ++ pageEnd) (page title preheader blocks o) := by
  -- from the link outwards: its paragraph, the footer, the body, the page
  have hlink : EndsIn (unsubscribeLink o.unsubscribeAddress) [.element "a"
      [("href", unsubscribeTarget o.unsubscribeAddress), ("style", "color: #9ca3af;")]
      [.text "Unsubscribe"]] := by
    refine ⟨"", ?_⟩
    rw [Html.printAll_cons, print_unsubscribeLink, Html.printAll_nil, String.append_empty,
      String.empty_append]
  have hline := ((hlink.cons (.text ("This email was sent by " ++ o.senderLabel ++ ". "))).element
    "p" [("style", "margin: 0;")] [newline]).cons newline
  have hfooter := (hline.element "div"
    [("style", "text-align: center; padding: 20px; font-size: 12px; color: #9ca3af;")]
    [newline]).cons newline
  obtain ⟨container, hbody⟩ : ∃ container, pageBody preheader blocks o
    = .element "body" [] [newline, container, newline, unsubscribeLine o, newline] := ⟨_, rfl⟩
  have hcontent :=
    (((hfooter.cons container).cons newline).element "body" [] [newline]).cons newline
  have hpage := ((hcontent.cons (pageHead title)).cons newline).element "html" [("lang", "en")]
    [newline]
  have hend : pageEnd
      = closingTag "p" ++ printAll [newline] ++ (closingTag "div" ++ printAll [newline])
        ++ (closingTag "body" ++ printAll [newline])
        ++ (closingTag "html" ++ printAll [newline]) := by
    simp [pageEnd, closingTag, newline, Node.print]
  rw [page, hbody, hend]
  simp only [String.append_assoc] at hpage ⊢
  exact (hpage.cons newline).cons .doctype

/-- The markup of a document's page behind the title. -/
def documentRest (d : Document) (o : Options) : String :=
  behindTitle (Placeholder.resolve? d.preheader d.data) (blockArea d.blocks d.data d.branding) o

theorem html_eq_around_title (d : Document) (o : Options) :
    (render d o).html
      = beforeTitle ++ titleElement (render d o).subject ++ documentRest d o :=
  printAll_page _ _ _ o

end Render

/-! ## A request that is reported as sent -/

open Render (Message render titleElement beforeTitle unsubscribeTarget unsubscribeLink pageEnd)

namespace Mailer

theorem headers_unsubscribe (settings : MailSettings) (request : SendRequest) :
    (headers settings request).get? "List-Unsubscribe"
      = some ("<" ++ unsubscribeTarget settings.unsubscribeAddress ++ ">") := by
  have hopening : "<" ++ "mailto:" = "<mailto:" := by decide
  have hclosing : "?subject=unsubscribe" ++ ">" = "?subject=unsubscribe>" := by decide
  have hvalue : "<" ++ unsubscribeTarget settings.unsubscribeAddress ++ ">"
      = "<mailto:" ++ settings.unsubscribeAddress ++ "?subject=unsubscribe>" := by
    rw [← hopening, ← hclosing, unsubscribeTarget]
    simp only [String.append_assoc]
  simp only [hvalue, headers, List.cons_append, List.nil_append]
  refine Dict.get?_ofList_cons _ fun p hp => ?_
  simp only [List.mem_cons, List.mem_append, Option.mem_toList, Option.map_eq_some_iff] at hp
  rcases hp with rfl | rfl | rfl | rfl | ⟨id, -, rfl⟩ | ⟨id, -, rfl⟩ <;> simp

theorem rendered_of_sent {World : Type} {mailer : Mailer (StateM World)} {request : SendRequest}
    {w w' : World} {id : String} {rendered : Message}
    (h : mailer.send request w = (.ok (.sent id rendered), w')) :
    fault? request = none ∧ rendered = rendering mailer.settings request := by
  cases hfault : fault? request with
  | some fault =>
    rw [send_of_fault hfault] at h
    cases h
  | none =>
    refine ⟨rfl, ?_⟩
    rw [send_of_no_fault hfault] at h
    obtain ⟨consulted, w₁, h⟩ : ∃ consulted w₁,
        mailer.conclude request consulted w₁ = (.ok (.sent id rendered), w') := ⟨_, _, h⟩
    cases consulted with
    | some reason => cases h
    | none =>
      rw [conclude_none] at h
      obtain ⟨answer, h⟩ : ∃ answer, Except.map
          (fun id => SendOutcome.sent id (rendering mailer.settings request)) answer
            = (.ok (.sent id rendered) : Except MailError SendOutcome) :=
        ⟨_, congrArg Prod.fst h⟩
      cases answer with
      | error e => cases h
      | ok id' =>
        cases h
        rfl

/-- What is handed over for a document, and what is reported, is the document as it is rendered
    without a mailer, but for the subject where the document has none. -/
structure AsRendered (settings : MailSettings) (d : Document) (rendered : Message)
    (mail : OutgoingEmail) : Prop where
  subject : mail.subject = rendered.subject
  html : mail.html = rendered.html
  text : mail.text = rendered.text
  own : Text.isBlank d.subject = false → rendered = render d (.ofSettings settings false)
  default : Text.isBlank d.subject = true →
    rendered = render { d with subject := settings.defaultSubject } (.ofSettings settings false)
  /-- The text has no part in the subject. -/
  words : rendered.text = (render d (.ofSettings settings false)).text
  /-- The page has it in its title alone. -/
  title : ∃ rest, mail.html = beforeTitle ++ titleElement mail.subject ++ rest
    ∧ (render d (.ofSettings settings false)).html
      = beforeTitle ++ titleElement (render d (.ofSettings settings false)).subject ++ rest
  link : ∃ front,
    mail.html = front ++ (unsubscribeLink settings.unsubscribeAddress ++ pageEnd)
  header : mail.headers.get? "List-Unsubscribe"
    = some ("<" ++ unsubscribeTarget settings.unsubscribeAddress ++ ">")

theorem message_asRendered (settings : MailSettings) (request : SendRequest) :
    AsRendered settings request.document (rendering settings request)
      (message settings request) where
  subject := rfl
  html := rfl
  text := rfl
  own hsubject := by
    simp only [rendering, withSubject, hsubject]
    rfl
  default hblank := by
    simp only [rendering, withSubject, hblank]
    rfl
  words := by
    unfold rendering withSubject
    split <;> rfl
  title := by
    have hrest : Render.documentRest (withSubject settings request.document) (options settings)
        = Render.documentRest request.document (options settings) := by
      unfold withSubject
      split <;> rfl
    have hhtml := Render.html_eq_around_title (withSubject settings request.document)
      (options settings)
    rw [hrest] at hhtml
    exact ⟨_, hhtml, Render.html_eq_around_title _ _⟩
  link := Render.page_endsIn _ _ _ _
  header := headers_unsubscribe settings request

/-- **Sending and rendering agree.**  Whatever the provider and the guard do in the world, a request
    that is reported as sent has had one message handed over, and this message, the report and the
    rendering of the document agree. -/
theorem sent_as_rendered {World : Type} {mailer : Mailer (StateM World)} {request : SendRequest}
    {w w' : World} {id : String} {rendered : Message}
    (h : mailer.send request w = (.ok (.sent id rendered), w')) :
    ∃ mail, (∀ handed, (mailer.watched fun email handed => handed ++ [email]).send request handed w
          = ((.ok (.sent id rendered), handed ++ [mail]), w'))
      ∧ AsRendered mailer.settings request.document rendered mail := by
  obtain ⟨hfault, rfl⟩ := rendered_of_sent h
  refine ⟨message mailer.settings request, fun handed => ?_, message_asRendered _ _⟩
  rw [send_watched, run_map_of_eq _ h]
  simp [noted, hfault]

/-- A mailer whose messages are kept. -/
def keeper : Mailer (StateM Outbox) where
  settings := {}
  provider := Outbox.provider none fun n => toString n

/-- A request for a message without a subject. -/
def greeting : SendRequest where
  recipient := " ada@example.org "
  document := { subject := " \t", blocks := [⟨"hello", 0, .text { content := "Hello" }⟩] }

theorem sent_as_rendered_greeting :
    keeper.send greeting {}
        = (.ok (.sent "mock-0" (rendering {} greeting)), ⟨[message {} greeting]⟩)
      ∧ ∃ mail, (∀ handed,
          (keeper.watched fun email handed => handed ++ [email]).send greeting handed {}
            = ((.ok (.sent "mock-0" (rendering {} greeting)), handed ++ [mail]),
              ⟨[message {} greeting]⟩))
        ∧ AsRendered {} greeting.document (rendering {} greeting) mail := by
  have hfault : fault? greeting = none := by decide +kernel
  have hsend : keeper.send greeting {}
      = (.ok (.sent "mock-0" (rendering {} greeting)), ⟨[message {} greeting]⟩) := by
    rw [send_of_no_fault hfault]
    rfl
  exact ⟨hsend, sent_as_rendered hsend⟩

end Mailer

end BlockMail
