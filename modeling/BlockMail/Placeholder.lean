import BlockMail.Context

/-! # Placeholders

A token is `{key}` or `{key|fallback}`, where the key is made of ASCII letters,
digits and underscores and the fallback is any text without a closing brace.

- `segments` cuts a template into tokens and characters that belong to none: the
  leftmost token is taken first and tokens do not overlap.
- `Token.value?` is what a token stands for in a context, if it stands for
  anything.
- `resolve` puts the values in.  They are not looked into again, and nothing is
  escaped.
-/

namespace BlockMail.Placeholder

/-! ## Cutting a template -/

/-- A token, read. -/
structure Token where
  key : String
  fallback : Option String
  deriving DecidableEq, Repr, Inhabited

/-- The characters that keys are made of. -/
def isKeyChar (c : Char) : Bool :=
  ('a' ≤ c && c ≤ 'z') || ('A' ≤ c && c ≤ 'Z') || ('0' ≤ c && c ≤ '9') || c == '_'

/-- The token as it is written. -/
def Token.written (t : Token) : String :=
  match t.fallback with
  | none => "\x7b" ++ t.key ++ "\x7d"
  | some f => "\x7b" ++ t.key ++ "|" ++ f ++ "\x7d"

/-- The end of a token after its key, and what follows it. -/
def scanEnd? (key : String) : List Char → Option (Token × List Char)
  | '\x7d' :: rest => some (⟨key, none⟩, rest)
  | '|' :: rest =>
    match rest.dropWhile (· != '\x7d') with
    | [] => none
    | _ :: after => some (⟨key, some (String.ofList (rest.takeWhile (· != '\x7d')))⟩, after)
  | _ => none

/-- A token whose opening brace has been read, and what follows it. -/
def scanToken? (cs : List Char) : Option (Token × List Char) :=
  if cs.takeWhile isKeyChar = [] then none
  else scanEnd? (String.ofList (cs.takeWhile isKeyChar)) (cs.dropWhile isKeyChar)

/-- A piece of a template: a token or a character that belongs to none. -/
inductive Segment where
  | token (t : Token)
  | literal (c : Char)
  deriving DecidableEq, Repr, Inhabited

theorem length_scanEnd? {key : String} {cs : List Char} {r : Token × List Char}
    (h : scanEnd? key cs = some r) : r.2.length < cs.length := by
  unfold scanEnd? at h
  split at h
  · cases h
    simp
  · rename_i rest
    have hfall := (List.dropWhile_sublist (· != '\x7d') (l := rest)).length_le
    split at h
    · simp at h
    · rename_i hafter
      cases h
      rw [hafter] at hfall
      simp at hfall ⊢
      omega
  · simp at h

theorem length_scanToken? {cs : List Char} {r : Token × List Char}
    (h : scanToken? cs = some r) : r.2.length < cs.length := by
  have hdrop := (List.dropWhile_sublist isKeyChar (l := cs)).length_le
  unfold scanToken? at h
  split at h
  · simp at h
  · have := length_scanEnd? h
    omega

/-- The pieces of a template, from left to right. -/
def segments (cs : List Char) : List Segment :=
  match cs with
  | [] => []
  | c :: cs =>
    if c = '\x7b' then
      match _h : scanToken? cs with
      | some (t, rest) => .token t :: segments rest
      -- an opening brace that starts no token stands for itself
      | none => .literal c :: segments cs
    else .literal c :: segments cs
termination_by cs.length
decreasing_by
  · have := length_scanToken? _h
    simp only [List.length_cons] at *
    omega
  · simp
  · simp

/-! ## Filling in -/

/-- Stands in for a place or a telephone number that is not worth printing. -/
def dash : String := "-"

/-- The key of the place, which has a rule of its own. -/
def locationKey : String := "session_location"

/-- Places that mean that nothing specific was entered. -/
def vagueLocations : List String := ["Studio", "TBD"]

/-- Whether a key holds a telephone number: its name says so. -/
def isPhoneKey (key : String) : Bool :=
  containsChars "phone".toList key.toList
where
  /-- Whether the second list has the first as a contiguous part. -/
  containsChars (part : List Char) : List Char → Bool
    | [] => part.isEmpty
    | c :: cs => part.isPrefixOf (c :: cs) || containsChars part cs

/-- What a token stands for; none if it stays as it is written.

    - The place is a dash unless it is specific; its fallback is not looked at.
    - A telephone number is a dash when neither it nor its fallback is given.
    - Any other key has its value or else its fallback. -/
def Token.value? (t : Token) (c : Context) : Option String :=
  if t.key = locationKey then
    some (((c.getNonBlank? t.key).filter (fun v => !vagueLocations.contains v)).getD dash)
  else if isPhoneKey t.key then
    some (((c.getNonBlank? t.key).or (Text.present? t.fallback)).getD dash)
  else (c.get? t.key).or (Text.present? t.fallback)

/-- The text of a segment once it is filled in. -/
def Segment.fill (c : Context) : Segment → List Char
  | .token t => ((t.value? c).getD t.written).toList
  | .literal ch => [ch]

/-- The template with its tokens filled in. -/
def resolve (template : String) (c : Context) : String :=
  String.ofList ((segments template.toList).flatMap (Segment.fill c))

/-- What `{key|fallback}` becomes; the bare fallback where it would stay a token. -/
def resolveKey (key fallback : String) (c : Context) : String :=
  (Token.value? ⟨key, some fallback⟩ c).getD fallback

/-- Resolves a template that may be missing; an empty one counts as missing. -/
def resolve? (template : Option String) (c : Context) : Option String :=
  (Text.present? template).map (resolve · c)

end BlockMail.Placeholder
