import BlockMail.Http.Host

/-! # Web addresses

Absolute addresses of the schemes `http` and `https`, as far as it takes to send
a request to them:

- `Url.parse?` reads an address.  There is none without one of the two schemes, a
  host, and a socket number below 65536 if there is one;
- `Url.target` is what a request for the address names: the path with its dot
  segments resolved, and the query;
- `Url.credentials` is who asks, which an address may say in front of an `@`.
-/

namespace BlockMail.Http

/-- Who asks: a name, and a password if there is one. -/
structure Credentials where
  name : String
  password : Option String := none
  deriving DecidableEq, Repr, Inhabited

/-- An absolute web address. -/
structure Url where
  secure : Bool
  credentials : Option Credentials
  host : Host
  /-- The number behind the host. -/
  socket : Option Nat
  /-- The segments of the path, of which there is at least one. -/
  path : List String
  query : Option String
  deriving DecidableEq, Repr, Inhabited

namespace Url

/-! ## Parts and their characters -/

/-- Control characters, and those that are not ASCII. -/
def isUnprintable (c : Char) : Bool :=
  c.toNat < 0x20 || 0x7E < c.toNat

/-- Characters that cannot stand in a path. -/
def isEncodedInPath (c : Char) : Bool :=
  isUnprintable c || [' ', '"', '#', '<', '>', '?', '`', '\x7b', '\x7d'].contains c

/-- Characters that cannot stand in a query. -/
def isEncodedInQuery (c : Char) : Bool :=
  isUnprintable c || [' ', '"', '#', '<', '>', '\''].contains c

/-! ## Paths -/

/-- A slash of either kind. -/
def isSlash (c : Char) : Bool := c = '/' || c = '\\'

/-- How many dots a segment consists of, each of which may be written `%2e`. -/
def dots? : List Char → Option Nat
  | [] => some 0
  | '.' :: cs => (dots? cs).map (· + 1)
  | '%' :: '2' :: e :: cs => if e = 'e' ∨ e = 'E' then (dots? cs).map (· + 1) else none
  | _ => none

/-- The name of a drive: a letter with a colon or a bar.  Dots do not leave it. -/
def isDrive (segment : String) : Bool :=
  match segment.toList with
  | [c, d] => c.isAlpha && (d = ':' || d = '|')
  | _ => false

/-- The folder that a folder is in.  Segments are given from the last to the
    first. -/
def parent : List String → List String
  | [] => []
  | segment :: folder => if isDrive segment then segment :: folder else folder

/-- Follows a path from a folder.  One dot stays in the folder and two dots leave
    it. -/
def follow (folder : List String) : List (List Char) → List String
  | [] => folder.reverse
  | piece :: rest =>
    match dots? piece, rest with
    -- a last piece of one or two dots names a folder, so the path ends in a slash
    | some 1, [] => ("" :: folder).reverse
    | some 1, _ => follow folder rest
    | some 2, [] => ("" :: parent folder).reverse
    | some 2, _ => follow (parent folder) rest
    | _, _ => follow (Percent.encode isEncodedInPath piece :: folder) rest

/-! ## Reading -/

/-- Characters that are removed from the ends of an address. -/
def isMargin (c : Char) : Bool := c.toNat ≤ 0x20

/-- The characters of an address that mean something. -/
def significant (s : String) : List Char :=
  ((s.toList.dropWhile isMargin).reverse.dropWhile isMargin).reverse.filter fun c =>
    !(['\t', '\n', '\r'].contains c)

/-- The scheme of an address and what follows it. -/
def scheme? (cs : List Char) : Option (Bool × List Char) :=
  let (name, rest) := cs.span (· != ':')
  match rest, String.ofList (name.map Char.toLower) with
  | ':' :: rest, "http" => some (false, rest)
  | ':' :: rest, "https" => some (true, rest)
  | _, _ => none

/-- A socket number: nothing, or a number below 65536. -/
def socket? (cs : List Char) : Option (Option Nat) :=
  if cs = [] then some none
  else if cs.all Char.isDigit then
    let n := cs.foldl (fun n c => n * 10 + (c.toNat - '0'.toNat)) 0
    if n < 65536 then some (some n) else none
  else none

/-- Cuts at the first colon outside of brackets. -/
def splitSocket (inside : Bool) : List Char → List Char × List Char
  | [] => ([], [])
  | c :: cs =>
    if c = ':' ∧ ¬inside then ([], cs)
    else
      let (host, number) :=
        splitSocket (if c = '[' then true else if c = ']' then false else inside) cs
      (c :: host, number)

/-- Cuts at the last `@`: who asks, and where.  Without an `@` nobody is named. -/
def splitUser (cs : List Char) : List Char × List Char :=
  (((cs.reverse.dropWhile (· != '@')).drop 1).reverse, (cs.reverse.takeWhile (· != '@')).reverse)

/-- Reads a name and a password with a colon between them.  There has to be one of
    the two, and what is no text does not count. -/
def credentials? (cs : List Char) : Option Credentials := do
  let (name, rest) := cs.span (· != ':')
  let name ← Percent.decode? name
  let password := if rest.length ≤ 1 then none else Percent.decode? (rest.drop 1)
  if name = "" ∧ password = none then none else some { name, password }

/-- Whether a character ends the part of an address that names the host. -/
def endsAuthority (c : Char) : Bool := isSlash c || c = '?' || c = '#'

/-- Reads an address. -/
def parse? (s : String) : Option Url := do
  let (secure, rest) ← scheme? (significant s)
  let (authority, rest) := (rest.dropWhile isSlash).span fun c => !endsAuthority c
  let (user, place) := splitUser authority
  let (name, number) := splitSocket false place
  let host ← Host.parse? name
  let socket ← socket? number
  let (path, rest) := rest.span fun c => c != '?' && c != '#'
  let query :=
    match rest with
    | '?' :: q => some (Percent.encode isEncodedInQuery (q.takeWhile (· != '#')))
    | _ => none
  let path := follow [] (Text.piecesAt isSlash (path.drop 1))
  return { secure, credentials := credentials? user, host, socket, path, query }

/-- What a request for an address names. -/
def target (u : Url) : String :=
  "/" ++ "/".intercalate u.path ++ (u.query.map ("?" ++ ·)).getD ""

end Url

end BlockMail.Http
