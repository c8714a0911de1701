import BlockMail.Mail.Resend
import BlockMail.Proofs.Json.OneText
import BlockMail.Proofs.Json.Written

/-! # Delivery through Resend

The body of a request describes a mail in full: `mail?` reads every field back, so no two mails have
one body.  What is reported of a delivery is what the response says: the status decides between
success and refusal, and the body says the rest if it is a structure of the one text that is looked
for (`Says`).
-/

namespace BlockMail.Resend

open Json (Field Placed Record Source Value asTree readDict readString view writes_asTree)

/-! ## Bodies -/

/-- What a body says of a mail, by the names it is written under. -/
def fields : List Field :=
  [["from"], ["to"], ["subject"], ["html"], ["text"], ["reply_to"], ["headers"]]

/-- The only item of an array, which is a text. -/
def readOnly {α : Type} [Source α] (a : α) : Option String :=
  match view a with
  | .array [b] => readString b
  | _ => none

/-- Reads the mail that a body describes. -/
def mail? (text : String) : Option OutgoingEmail := do
  let t ← (Json.read text).tree?
  let r ← Record.read? fields t.outermost
  return {
    sender := ← r.required 0 readString
    recipient := ← r.required 1 readOnly
    subject := ← r.required 2 readString
    html := ← r.required 3 readString
    text := ← r.required 4 readString
    replyTo := ← r.optional 5 readString
    headers := ← r.orElse 6 ∅ (readDict readString) }

theorem readString_asTree (room : Nat) (s : String) :
    readString (asTree room (.string s)) = some s :=
  writes_asTree.readString room s

theorem readOnly_asTree (room : Nat) (s : String) :
    readOnly (asTree (room + 1) (.array [.string s])) = some s := by
  have hview : view (asTree (room + 1) (.array [.string s]))
      = .array [asTree room (.string s)] := by
    show Placed.view ⟨room + 1, Value.tree _⟩ = _
    simp only [Value.tree, Json.itemTrees, Placed.view, List.map_cons, List.map_nil]
    rfl
  rw [readOnly, hview]
  exact readString_asTree room s

/-- The fields in the body for a mail. -/
def bodyRecord (room : Nat) (email : OutgoingEmail) : Record Placed :=
  ⟨[ (0, asTree room (.string email.sender)), (1, asTree room (.array [.string email.recipient])),
      (2, asTree room (.string email.subject)), (3, asTree room (.string email.html)),
      (4, asTree room (.string email.text)) ]
    ++ (email.replyTo.map fun s => (5, asTree room (.string s))).toList
    ++ ((headers? email).map fun v => (6, asTree room v)).toList⟩

theorem read?_body (room : Nat) (email : OutgoingEmail) :
    Record.read? fields (asTree (room + 1) (body email)) = some (bodyRecord room email) := by
  rw [body, Record.read?_of_object (writes_asTree.object _ _)]
  unfold bodyRecord
  cases email.replyTo <;> cases headers? email <;> rfl

theorem optional_replyTo (room : Nat) (email : OutgoingEmail) :
    (bodyRecord room email).optional 5 readString = some email.replyTo := by
  have hslot : (bodyRecord room email).slot? 5
      = email.replyTo.map fun s => asTree room (.string s) := by
    unfold bodyRecord
    cases email.replyTo <;> cases headers? email <;> rfl
  rw [Record.optional, hslot]
  cases email.replyTo with
  | none => rfl
  | some s => exact writes_asTree.readText? room (some s)

theorem headers?_of_ne {email : OutgoingEmail} (h : email.headers ≠ ∅) : headers? email
    = some (.object (email.headers.entries.map fun e => (e.1, .string e.2))) :=
  if_neg fun hempty => h (Dict.ext (List.isEmpty_iff.mp hempty))

theorem headers?_eq_none_iff {email : OutgoingEmail} :
    headers? email = none ↔ email.headers = ∅ := by
  constructor
  · intro hnone
    by_contra hne
    rw [headers?_of_ne hne] at hnone
    cases hnone
  · intro hempty
    rw [headers?, hempty]
    rfl

theorem orElse_headers (room : Nat) (email : OutgoingEmail) :
    (bodyRecord (room + 1) email).orElse 6 ∅ (readDict readString) = some email.headers := by
  have hslot : (bodyRecord (room + 1) email).slot? 6
      = (headers? email).map (asTree (room + 1)) := by
    unfold bodyRecord
    cases email.replyTo <;> cases headers? email <;> rfl
  unfold Record.orElse Record.optional
  by_cases hempty : email.headers = ∅
  · rw [hslot, headers?_eq_none_iff.mpr hempty, hempty]
    rfl
  · have hread := writes_asTree.readDict (readString_asTree room)
      (List.Perm.refl email.headers.entries)
    rw [hslot, headers?_of_ne hempty, Option.map_some]
    simp only [Json.readNullable, Json.isNull, writes_asTree.object, hread]
    rfl

theorem mail?_body (email : OutgoingEmail) : mail? (body email).toText = some email := by
  unfold mail?
  rw [Json.read_toText]
  show (Record.read? fields (asTree 127 (body email))).bind _ = _
  rw [read?_body 126, Option.bind_some, optional_replyTo, orElse_headers]
  simp only [bodyRecord, Record.required, Record.slot?]
  simp [readString_asTree, readOnly_asTree]

/-- How a mail stands in the members of a body: it has one recipient, and what it lacks is left
    out. -/
structure Describes (email : OutgoingEmail) (ms : List (String × Value)) : Prop where
  once : (ms.map Prod.fst).Nodup
  recipient : ("to", .array [.string email.recipient]) ∈ ms
  replyTo : "reply_to" ∈ ms.map Prod.fst ↔ email.replyTo ≠ none
  headers : "headers" ∈ ms.map Prod.fst ↔ email.headers ≠ ∅

theorem exists_body_describes (email : OutgoingEmail) :
    ∃ ms, body email = .object ms ∧ Describes email ms := by
  have hheaders : headers? email = none ↔ email.headers = ∅ := headers?_eq_none_iff
  refine ⟨_, rfl, ?_, ?_, ?_, ?_⟩
  · cases email.replyTo <;> cases headers? email <;> simp [member?]
  · exact List.mem_append_left _ (List.mem_append_left _ (.tail _ (.head _)))
  · cases email.replyTo <;> cases headers? email <;> simp [member?]
  · rw [Ne, ← hheaders]
    cases email.replyTo <;> cases headers? email <;> simp [member?]

/-! ## Responses -/

/-- The text is a structure that says one text under a name. -/
def Says (name text s : String) : Prop :=
  ∃ t, (Json.read text).tree? = some t ∧ Json.Says name t s

theorem readField?_eq_some_iff {name text s : String} :
    readField? [name] text = some s ↔ Says name text s := by
  unfold readField? Says
  rw [Option.bind_eq_bind, Option.bind_eq_some_iff]
  exact exists_congr fun t => and_congr_right fun _ => Json.required_iff

theorem readField?_eq_none_iff {name text : String} :
    readField? [name] text = none ↔ ∀ s, ¬ Says name text s := by
  simp only [Option.eq_none_iff_forall_ne_some, ne_eq, readField?_eq_some_iff]

/-- The response accepts a mail and says what it is called. -/
structure Acknowledges (r : Http.Response) (id : String) : Prop where
  success : 200 ≤ r.status ∧ r.status ≤ 299
  named : Says "id" r.body id

/-- The result of a delivery is what the response to it says. -/
structure Reports (r : Http.Response) (result : Except MailError String) : Prop where
  accepted : ∀ id, result = .ok id ↔ Acknowledges r id
  misunderstood : 200 ≤ r.status ∧ r.status ≤ 299 → (∀ id, ¬ Says "id" r.body id) →
    ∃ details, result = .error (.provider details)
  refused : ¬ (200 ≤ r.status ∧ r.status ≤ 299) → ∀ message, Says "message" r.body message →
    result = .error (.rejected r.status message)
  /-- A refusal that is not understood is passed on as it is. -/
  verbatim : ¬ (200 ≤ r.status ∧ r.status ≤ 299) → (∀ message, ¬ Says "message" r.body message) →
    result = .error (.rejected r.status r.body)

theorem isSuccess_iff {r : Http.Response} :
    r.isSuccess = true ↔ 200 ≤ r.status ∧ r.status ≤ 299 := by
  rw [Http.Response.isSuccess, Bool.and_eq_true, decide_eq_true_eq, decide_eq_true_eq]
  omega

theorem outcome_of_success {r : Http.Response} (h : 200 ≤ r.status ∧ r.status ≤ 299) :
    outcome r = match messageId? r.body with
      | some id => .ok id
      | none => .error (.provider "Unexpected Resend response") := by
  unfold outcome
  exact if_pos (isSuccess_iff.mpr h)

theorem outcome_of_refusal {r : Http.Response} (h : ¬ (200 ≤ r.status ∧ r.status ≤ 299)) :
    outcome r = .error (.rejected r.status (refusal r.body)) := by
  unfold outcome
  exact if_neg (isSuccess_iff.not.mpr h)

theorem outcome_reports (r : Http.Response) : Reports r (outcome r) where
  accepted id := by
    by_cases h : 200 ≤ r.status ∧ r.status ≤ 299
    · have hacknowledges : Acknowledges r id ↔ messageId? r.body = some id :=
        ⟨fun hid => readField?_eq_some_iff.mpr hid.named,
          fun hid => ⟨h, readField?_eq_some_iff.mp hid⟩⟩
      rw [outcome_of_success h, hacknowledges]
      cases messageId? r.body <;> simp
    · rw [outcome_of_refusal h]
      exact iff_of_false nofun fun hid => h hid.success
  misunderstood h hnone := by
    rw [outcome_of_success h, messageId?, readField?_eq_none_iff.mpr hnone]
    exact ⟨_, rfl⟩
  refused h message hmessage := by
    rw [outcome_of_refusal h, refusal, readField?_eq_some_iff.mpr hmessage]
    rfl
  verbatim h hnone := by
    rw [outcome_of_refusal h, refusal, readField?_eq_none_iff.mpr hnone]
    rfl

section Deliveries

variable {account : ResendAccount} {email : OutgoingEmail} {request : Http.Request}

theorem body_of_request? (h : request? account email = some request) :
    request.body = (body email).toText := by
  obtain ⟨url, -, h⟩ := Option.bind_eq_some_iff.mp h
  simp only at h
  split at h
  · cases h
    rfl
  · cases h

theorem deliver_of_response {World : Type}
    {post : Http.Request → StateM World (Except String Http.Response)} {w w' : World}
    {r : Http.Response} (h : request? account email = some request)
    (hpost : post request w = (.ok r, w')) :
    (provider account post).deliver email w = (outcome r, w') := by
  simp only [provider, h]
  show StateT.bind (post request) _ w = _
  rw [StateT.bind, hpost]
  rfl

end Deliveries

/-- **Nothing is lost or misreported.**  The body of a request has the whole mail in it, so
    different mails have different bodies, and a delivery results in what the response says,
    whatever its status and its body are. -/
theorem mail_kept_and_answer_reported :
    (∀ email, mail? (body email).toText = some email
      ∧ ∃ ms, (Json.read (body email).toText).tree? = some (Value.object ms).tree
        ∧ Describes email ms)
    ∧ Function.Injective (fun email => (body email).toText)
    ∧ ∀ account email request, request? account email = some request →
      request.body = (body email).toText
      ∧ ∀ {World : Type} (post : Http.Request → StateM World (Except String Http.Response))
          (w w' : World) (r : Http.Response), post request w = (.ok r, w') →
        ∃ result, (provider account post).deliver email w = (result, w') ∧ Reports r result := by
  refine ⟨fun email => ⟨mail?_body email, ?_⟩, fun email email' h => ?_, ?_⟩
  · obtain ⟨ms, hms, hdescribes⟩ := exists_body_describes email
    exact ⟨ms, by rw [hms, Json.read_toText], hdescribes⟩
  · have hmail : mail? (body email).toText = mail? (body email').toText := congrArg mail? h
    rw [mail?_body, mail?_body] at hmail
    exact Option.some.inj hmail
  · intro account email request hrequest
    refine ⟨body_of_request? hrequest, fun post w w' r hpost => ?_⟩
    exact ⟨outcome r, deliver_of_response hrequest hpost, outcome_reports r⟩

/-- A mail without an address for answers and without further headers. -/
def bareMail : OutgoingEmail :=
  { sender := "Studio <a@b.c>", recipient := "x@y.z", subject := "\"" }

def bareAccount : ResendAccount := .of "re_1" "http://[::1]:9//"

def bareRequest : Http.Request where
  method := "POST"
  url := ⟨false, none, .version6 "::1", some 9, ["emails"], none⟩
  authorization := "Bearer re_1"
  contentType := "application/json"
  body := (body bareMail).toText

/-- What a server says that refuses everything. -/
def refusedText : String := "\x7b\"id\":null,\"message\":\"gone\"\x7d"

/-- A server that refuses every request and keeps it. -/
def refusing (request : Http.Request) : StateM (List Http.Request) (Except String Http.Response) :=
  fun w => (.ok ⟨422, refusedText⟩, w ++ [request])

theorem says_refusedText : Says "message" refusedText "gone" := by
  have htext : refusedText
      = (Value.object [("id", .null), ("message", .string "gone")]).toText := by
    decide
  have hread : (Json.read refusedText).tree? = some (.object
      [ (Json.unitsOf "id", .null),
        (Json.unitsOf "message", .string (Json.unitsOf "gone")) ]) := by
    rw [htext, Json.read_toText]
    rfl
  have hmember : [ (Json.unitsOf "id", Json.Tree.null),
        (Json.unitsOf "message", .string (Json.unitsOf "gone")) ].filter
          (fun m => Json.textOf? m.1 == some "message")
      = [(Json.unitsOf "message", .string (Json.unitsOf "gone"))] := by
    rfl
  exact ⟨_, hread, .member (by decide) hmember (Json.textOf?_unitsOf "gone")⟩

theorem mail_kept_and_answer_reported_gone :
    request? bareAccount bareMail = some bareRequest
      ∧ refusing bareRequest [] = (.ok ⟨422, refusedText⟩, [bareRequest])
      ∧ mail? bareRequest.body = some bareMail
      ∧ (provider bareAccount refusing).deliver bareMail []
        = (.error (.rejected 422 "gone"), [bareRequest]) := by
  have hurl : Http.Url.parse? (bareAccount.apiUrl ++ "/emails") = some bareRequest.url := by
    decide +kernel
  have hrequest : request? bareAccount bareMail = some bareRequest := by
    rw [request?, hurl]
    rfl
  obtain ⟨hmails, -, hdeliveries⟩ := mail_kept_and_answer_reported
  obtain ⟨hbody, hdelivery⟩ := hdeliveries bareAccount bareMail bareRequest hrequest
  obtain ⟨result, hdeliver, hreports⟩ :=
    hdelivery refusing [] [bareRequest] ⟨422, refusedText⟩ rfl
  refine ⟨hrequest, rfl, hbody ▸ (hmails bareMail).1, ?_⟩
  rw [hdeliver, hreports.refused (by decide) "gone" says_refusedText]

end BlockMail.Resend
