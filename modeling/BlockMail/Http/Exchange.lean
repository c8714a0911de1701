import BlockMail.Http.Url
import BlockMail.Text.Base64

/-! # Requests and responses

What is handed to a web server and what comes back.
-/

namespace BlockMail.Http

/-- A request with a body. -/
structure Request where
  method : String
  url : Url
  authorization : String
  contentType : String
  body : String
  deriving DecidableEq, Repr, Inhabited

/-- What a server answers. -/
structure Response where
  status : Nat
  body : String
  deriving DecidableEq, Repr, Inhabited

namespace Response

/-- The request was carried out. -/
def isSuccess (r : Response) : Bool := 200 ≤ r.status && r.status < 300

/-- The server switches to another protocol. -/
def switches : Nat := 101

/-- A status has three digits, and one that begins with 1 does not end an exchange,
    unless the server switches to another protocol. -/
def isFinal (status : Nat) : Bool :=
  status == switches || (200 ≤ status && status < 1000)

/-- Whether a response of a status comes without a body. -/
def isBodiless (status : Nat) : Bool := [switches, 204, 304].contains status

/-- What arrives of a response that a server sends, if anything arrives that ends
    the exchange. -/
def received? (r : Response) : Option Response :=
  if isFinal r.status then some ⟨r.status, if isBodiless r.status then "" else r.body⟩ else none

end Response

namespace Credentials

/-- The value of the header that names who asks. -/
def header (c : Credentials) : String :=
  "Basic " ++ String.ofList (Text.Base64.encode (c.name ++ ":" ++ c.password.getD "").toUTF8.toList)

end Credentials

/-- Whether a text can be the value of a header: control characters cannot be
    part of one, but tabs can. -/
def isHeaderValue (s : String) : Bool :=
  s.toList.all fun c => (0x20 ≤ c.toNat && c.toNat != 0x7F) || c == '\t'

end BlockMail.Http
