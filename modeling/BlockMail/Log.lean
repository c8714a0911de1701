import BlockMail.Block.Entry

/-! # The log

What the program says about itself while it works.  Somebody who watches it, a
subscriber, writes the events down, by default on standard output, and decides
which of them.
-/

namespace BlockMail

/-- How weighty an event is. -/
inductive LogLevel where
  | debug
  | info
  | warning
  deriving DecidableEq, Repr, Inhabited

def LogLevel.name : LogLevel → String
  | .debug => "DEBUG"
  | .info => "INFO"
  | .warning => "WARN"

/-- Something that is said about the work. -/
inductive LogEvent where
  /-- There is somebody to watch from here on. -/
  | started (production : Bool)
  | noticed (notice : Notice)
  /-- A document was rendered, into so many bytes. -/
  | rendered (blocks htmlSize textSize : Nat)
  | sending (recipient subject : String) (headers : Nat)
  | delivered (recipient messageId : String)
  | refused (recipient : String) (status : Nat) (details : String)
  | sent (messageId subject templateId : String)
  | accepted (messageId : String)
  deriving DecidableEq, Repr, Inhabited

/-- The wording of a notice. -/
def Notice.message : Notice → String
  | .undecodable _ => "Skipping undecodable block"
  | .untyped _ => "Skipping block without a type"
  | .unknownType _ _ => "Skipping block of unknown type"
  | .malformed _ _ => "Skipping block with malformed payload"

namespace LogEvent

def level : LogEvent → LogLevel
  | .noticed _ | .refused .. => .warning
  | .rendered .. | .sending .. => .debug
  | .started _ | .delivered .. | .sent .. | .accepted _ => .info

/-- The wording of an event. -/
def message : LogEvent → String
  | .started _ => "Tracing initialized"
  | .noticed notice => notice.message
  | .rendered .. => "Rendered template"
  | .sending .. => "Sending email via Resend"
  | .delivered .. => "Email sent via Resend"
  | .refused .. => "Resend rejected email"
  | .sent .. => "Template email sent"
  | .accepted _ => "Email accepted"

/-- Which events are written down unless somebody says otherwise: in production
    none for those who develop the program, and not the first one. -/
def isShown (production : Bool) (e : LogEvent) : Bool :=
  !production || (e.level != .debug && e != .started true)

/-- What is written down of an event: a line, if it is shown. -/
def written (production : Bool) (e : LogEvent) : String :=
  if e.isShown production then e.level.name ++ " " ++ e.message ++ "\n" else ""

end LogEvent

end BlockMail
