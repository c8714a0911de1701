/-! # Errors

What can go wrong outside of rendering, which never fails, and how it is worded.
-/

namespace BlockMail

/-- A setting that cannot be used. -/
inductive SettingError where
  | missing (variable_ : String)
  | unparsable (variable_ details : String)
  deriving DecidableEq, Repr, Inhabited

/-- The wording of a setting error. -/
def SettingError.message : SettingError → String
  | .missing name => "Environment variable '" ++ name ++ "' is required but not set"
  | .unparsable name details =>
    "Failed to parse environment variable '" ++ name ++ "': " ++ details

/-- A failure of a request to the mailer. -/
inductive MailError where
  /-- The request lacks something that a message needs. -/
  | invalidInput (details : String)
  | invalidEmail (address : String)
  /-- The provider could not be talked to, or not understood. -/
  | provider (details : String)
  /-- The provider answered that it does not accept the message. -/
  | rejected (status : Nat) (details : String)
  | config (details : String)
  | serialization (details : String)
  | membershipLookup (details : String)
  deriving DecidableEq, Repr, Inhabited

/-- The wording of a mail error. -/
def MailError.message : MailError → String
  | .invalidInput details => "Invalid input: " ++ details
  | .invalidEmail address => "Invalid email address: " ++ address
  | .provider details => "Email provider error: " ++ details
  | .rejected _ details => "Email provider rejected the message: " ++ details
  | .config details => "Configuration error: " ++ details
  | .serialization details => "Serialization error: " ++ details
  | .membershipLookup details => "Membership lookup failed: " ++ details

def SettingError.toMailError (e : SettingError) : MailError :=
  .config e.message

end BlockMail
