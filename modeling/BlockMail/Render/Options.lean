import BlockMail.Settings.Mail

/-! # Options of rendering

What a rendering depends on that is not part of the document.
-/

namespace BlockMail.Render

/-- Settings of the frame around the blocks. -/
structure Options where
  /-- Show the bar that marks a preview. -/
  preview : Bool := false
  /-- Who the last line says the message was sent by. -/
  senderLabel : String
  /-- Where the last line's link goes. -/
  unsubscribeAddress : String
  deriving DecidableEq, Inhabited

/-- The options that go with the settings of the mailer. -/
def Options.ofSettings (s : MailSettings) (preview : Bool) : Options :=
  { preview, senderLabel := s.senderName, unsubscribeAddress := s.unsubscribeAddress }

end BlockMail.Render
