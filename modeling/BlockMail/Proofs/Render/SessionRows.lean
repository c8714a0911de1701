import BlockMail.Proofs.Placeholder.Blankness
import BlockMail.Proofs.Placeholder.Concatenation
import BlockMail.Proofs.Render.Body
import BlockMail.Proofs.Render.Presence
import BlockMail.Proofs.Render.Shown
import BlockMail.Proofs.Text.Lines

/-! # Rows of session details

There are eleven details, told in one order.  Each has a switch, and a row that is made of the
context and of one field of the block at most (`possibleRows_eq`).  So the rows are those of the
details that are switched on, and a switch adds or takes away its own row and leaves the others as
they are, in both formats.

Nine of the rows show what a token stands for.  They do not go through a template, but what they
show is what the token becomes wherever it is one of the tokens of a template.
-/

namespace BlockMail.Render

open Html (Node printAll openingTag closingTag)
open Placeholder (Token Cut resolve resolveKey)

/-! ## The details -/

/-- What can be told about a session. -/
inductive Detail where
  | name
  | type
  | duration
  | status
  | date
  | time
  | location
  | meeting
  | project
  | package
  | notes
  deriving DecidableEq

namespace Detail

/-- The details in the order in which they are told. -/
def all : List Detail :=
  [name, type, duration, status, date, time, location, meeting, project, package, notes]

def isOn : Detail → SessionDetailsBlock → Bool
  | name => (·.showName)
  | type => (·.showType)
  | duration => (·.showDuration)
  | status => (·.showStatus)
  | date => (·.showDate)
  | time => (·.showTime)
  | location => (·.showLocation)
  | meeting => (·.showMeetingLink)
  | project => (·.showProject)
  | package => (·.showPackage)
  | notes => (·.showNotes)

/-- The block with the switch of a detail turned on or off. -/
def switch : Detail → Bool → SessionDetailsBlock → SessionDetailsBlock
  | name, on, b => { b with showName := on }
  | type, on, b => { b with showType := on }
  | duration, on, b => { b with showDuration := on }
  | status, on, b => { b with showStatus := on }
  | date, on, b => { b with showDate := on }
  | time, on, b => { b with showTime := on }
  | location, on, b => { b with showLocation := on }
  | meeting, on, b => { b with showMeetingLink := on }
  | project, on, b => { b with showProject := on }
  | package, on, b => { b with showPackage := on }
  | notes, on, b => { b with showNotes := on }

/-- The field of the block that belongs to a detail: a label of its own, or the notes. -/
def own : Detail → SessionDetailsBlock → Option String
  | meeting => (·.meetingLabel)
  | project => (·.projectLabel)
  | package => (·.packageLabel)
  | notes => (·.customNotes)
  | _ => fun _ => none

/-- The token whose value a detail shows. -/
def token? : Detail → Option Token
  | name => some ⟨"session_name", some "—"⟩
  | type => some ⟨"session_type", some "—"⟩
  | duration => some ⟨"session_duration", some "—"⟩
  | status => some ⟨"session_status", some "—"⟩
  | date => some ⟨"session_date", some "TBD"⟩
  | time => some ⟨"session_time", some "TBD"⟩
  | location => some ⟨"session_location", some "—"⟩
  | meeting => none
  | project => some ⟨"project_name", some "—"⟩
  | package => some ⟨"project_package_name", some "—"⟩
  | notes => none

def usualLabel : Detail → String
  | name => "Session"
  | type => "Type"
  | duration => "Duration"
  | status => "Status"
  | date => "Date"
  | time => "Time"
  | location => "Location"
  | meeting => "Meeting Link"
  | project => "Project"
  | package => "Package"
  | notes => "Notes"

/-- A label of its own goes without the white space around it, and does not count if that is all
    there is of it. -/
def label (d : Detail) (own : Option String) : String :=
  match own with
  | none => d.usualLabel
  | some s => if d = notes ∨ Text.isBlank s = true then d.usualLabel else Text.trim s

def value (d : Detail) (own : Option String) (c : Context) : RowValue :=
  match d.token? with
  | some t => .text (resolve t.written c)
  | none =>
    if d = notes then .text (sessionNotes { customNotes := own } c) else (meetingRow {} c).value

/-- The row of a detail, of its own field and the context. -/
def row (d : Detail) (own : Option String) (c : Context) : SessionRow :=
  ⟨d.label own, d.value own c⟩

theorem mem_all (d : Detail) : d ∈ all := by
  cases d <;> decide

theorem nodup_all : all.Nodup := by decide

theorem isOn_switch (d e : Detail) (on : Bool) (b : SessionDetailsBlock) :
    e.isOn (d.switch on b) = if e = d then on else e.isOn b := by
  cases d <;> cases e <;> rfl

theorem switch_isOn (d : Detail) (b : SessionDetailsBlock) : d.switch (d.isOn b) b = b := by
  cases d <;> rfl

theorem own_switch (d e : Detail) (on : Bool) (b : SessionDetailsBlock) :
    e.own (d.switch on b) = e.own b := by
  cases d <;> cases e <;> rfl

theorem label_notes (own : Option String) : notes.label own = "Notes" := by
  unfold label
  split <;> simp [usualLabel]

theorem label_eq (d : Detail) (own : Option String) (h : d ≠ notes) :
    d.label own = labelOr own d.usualLabel := by
  cases own with
  | none => rfl
  | some s =>
    unfold label labelOr Text.nonBlank?
    cases hblank : Text.isBlank s <;> simp [h, hblank, Option.filter]

theorem wellFormed_token {d : Detail} {t : Token} (h : d.token? = some t) : t.WellFormed := by
  cases d <;> cases h <;> decide

end Detail

/-! ## The rows -/

theorem resolveKey_eq_resolve {key fallback : String} (c : Context)
    (ht : Token.WellFormed ⟨key, some fallback⟩) (hfallback : fallback ≠ "") :
    resolveKey key fallback c = resolve (Token.written ⟨key, some fallback⟩) c := by
  obtain ⟨v, hv⟩ := Placeholder.exists_value_of_fallback hfallback c
  rw [Placeholder.resolve_written ht, resolveKey, hv]
  rfl

theorem keyRow_eq {d : Detail} {key fallback : String} (label : String) (c : Context)
    (own : Option String) (ht : d.token? = some ⟨key, some fallback⟩) (hfallback : fallback ≠ "") :
    keyRow label key fallback c = ⟨label, d.value own c⟩ := by
  rw [keyRow, resolveKey_eq_resolve c (Detail.wellFormed_token ht) hfallback, Detail.value, ht]

theorem possibleRows_eq (b : SessionDetailsBlock) (c : Context) :
    possibleRows b c = Detail.all.map fun d => (d.isOn b, d.row (d.own b) c) := by
  have hrow : ∀ (d : Detail) (key fallback : String), d.token? = some ⟨key, some fallback⟩ →
      fallback ≠ "" → keyRow (d.label (d.own b)) key fallback c = d.row (d.own b) c := by
    intro d key fallback ht hfallback
    exact keyRow_eq _ c _ ht hfallback
  have hmeeting : Detail.meeting.row (Detail.meeting.own b) c = meetingRow b c := by
    rw [Detail.row, Detail.label_eq _ _ (by decide)]
    rfl
  have hnotes : Detail.notes.row (Detail.notes.own b) c = ⟨"Notes", .text (sessionNotes b c)⟩ := by
    rw [Detail.row, Detail.label_notes]
    rfl
  have hdash : noValue ≠ "" := by decide
  have hopen : unscheduled ≠ "" := by decide
  simp only [Detail.all, List.map_cons, List.map_nil, ← hrow .name _ _ rfl hdash,
    ← hrow .type _ _ rfl hdash, ← hrow .duration _ _ rfl hdash, ← hrow .status _ _ rfl hdash,
    ← hrow .date _ _ rfl hopen, ← hrow .time _ _ rfl hopen, ← hrow .location _ _ rfl hdash,
    ← hrow .project _ _ rfl hdash, ← hrow .package _ _ rfl hdash, hmeeting, hnotes,
    Detail.label_eq .project _ (by decide), Detail.label_eq .package _ (by decide)]
  rfl

theorem sessionRows_eq (b : SessionDetailsBlock) (c : Context) :
    sessionRows b c = (Detail.all.filter (·.isOn b)).map fun d => d.row (d.own b) c := by
  rw [sessionRows, possibleRows_eq, List.filter_map, List.map_map]
  rfl

theorem Detail.label_ne_empty (d : Detail) (own : Option String) : d.label own ≠ "" := by
  have husual : d.usualLabel ≠ "" := by cases d <;> decide
  unfold Detail.label
  split
  · exact husual
  · split
    · exact husual
    · next hown =>
      rw [ne_eq, Text.trim_eq_empty_iff]
      exact fun hblank => hown (.inr hblank)

theorem meetingRow_ne_empty (b : SessionDetailsBlock) (c : Context) :
    (meetingRow b c).value.shown ≠ "" := by
  rw [meetingRow]
  cases haddress : c.getNonBlank? "session_meeting_url" with
  | none =>
    show noValue ≠ ""
    decide
  | some url => exact Placeholder.ne_empty_of_isBlank (Text.nonBlank?_eq_some_iff.mp haddress).2

theorem Detail.value_ne_empty (d : Detail) (own : Option String) (c : Context) :
    (d.value own c).shown ≠ "" := by
  unfold Detail.value
  cases d.token? with
  | some t =>
    have hwritten := Placeholder.ne_empty_of_isBlank (Placeholder.isBlank_written t)
    exact resolve_ne_empty hwritten c
  | none =>
    dsimp only
    split
    · exact sessionNotes_ne_empty _ c
    · exact meetingRow_ne_empty _ c

/-! ## Turning a switch -/

theorem exists_filter_eq_of_nodup {α : Type} {p q : α → Bool} {a : α} {as : List α}
    (hnodup : as.Nodup) (hmem : a ∈ as) (hp : p a = true) (hq : q a = false)
    (hothers : ∀ b, b ≠ a → p b = q b) :
    ∃ before after, as.filter p = before ++ a :: after ∧ as.filter q = before ++ after := by
  obtain ⟨front, back, rfl⟩ := List.append_of_mem hmem
  obtain ⟨-, hback, hapart⟩ := List.nodup_append.mp hnodup
  have hfront : front.filter p = front.filter q := by
    apply List.filter_congr
    intro b hb
    exact hothers b (hapart b hb a (.head _))
  have hbehind : back.filter p = back.filter q := by
    apply List.filter_congr
    intro b hb
    apply hothers
    rintro rfl
    exact (List.nodup_cons.mp hback).1 hb
  exact ⟨front.filter q, back.filter q, by simp [hfront, hbehind, hp], by simp [hq]⟩

theorem exists_sessionRows_switch (d : Detail) (b : SessionDetailsBlock) (c : Context) :
    ∃ before after, sessionRows (d.switch true b) c = before ++ d.row (d.own b) c :: after
      ∧ sessionRows (d.switch false b) c = before ++ after := by
  have hswitched : ∀ on, d.isOn (d.switch on b) = on := by
    intro on
    rw [Detail.isOn_switch, if_pos rfl]
  have hothers : ∀ e, e ≠ d → e.isOn (d.switch true b) = e.isOn (d.switch false b) := by
    intro e he
    rw [Detail.isOn_switch, Detail.isOn_switch, if_neg he, if_neg he]
  obtain ⟨before, after, hon, hoff⟩ := exists_filter_eq_of_nodup Detail.nodup_all d.mem_all
    (hswitched true) (hswitched false) hothers
  refine ⟨before.map fun e => e.row (e.own b) c, after.map fun e => e.row (e.own b) c, ?_, ?_⟩
  · simp only [sessionRows_eq, hon, Detail.own_switch, List.map_append, List.map_cons]
  · simp only [sessionRows_eq, hoff, Detail.own_switch, List.map_append]

theorem sessionHeading_switch (d : Detail) (on : Bool) (b : SessionDetailsBlock) (c : Context) :
    sessionHeading (d.switch on b) c = sessionHeading b c := by
  cases d <;> rfl

/-- The line of a row in plain text. -/
def SessionRow.line (row : SessionRow) : String := row.label ++ ": " ++ row.value.shown

theorem sessionForm_eq (b : SessionDetailsBlock) (c : Context) :
    sessionForm b c = sessionHeading b c
      ++ joinWith "" ((sessionRows b c).map fun row => "\n" ++ row.line) := by
  rw [sessionForm, joinLines_cons, List.map_map]
  rfl

/-- A switch adds one row, or takes it away, and leaves the rest as it is. -/
structure SwitchesAlone (d : Detail) (b : SessionDetailsBlock) (c : Context)
    (branding : Option Branding) : Prop where
  either : d.switch (d.isOn b) b = b
  rows : ∃ before after, sessionRows (d.switch true b) c = before ++ d.row (d.own b) c :: after
    ∧ sessionRows (d.switch false b) c = before ++ after
  markup : ∃ front back, printAll (sessionFragment (d.switch true b) c branding)
      = front ++ (rowNode (linkColor branding) (d.row (d.own b) c)).print ++ back
    ∧ printAll (sessionFragment (d.switch false b) c branding) = front ++ back
  form : ∃ front back,
    sessionForm (d.switch true b) c = front ++ "\n" ++ (d.row (d.own b) c).line ++ back
      ∧ sessionForm (d.switch false b) c = front ++ back

theorem switches_alone (d : Detail) (b : SessionDetailsBlock) (c : Context)
    (branding : Option Branding) : SwitchesAlone d b c branding := by
  -- both forms put the rows one after the other, so the row in question splits them in two
  obtain ⟨before, after, hon, hoff⟩ := exists_sessionRows_switch d b c
  refine ⟨d.switch_isOn b, ⟨before, after, hon, hoff⟩, ?_, ?_⟩
  · refine ⟨openingTag "div" [("class", "session-details")]
        ++ ((Node.element "h3" [] [.text (sessionHeading b c)]).print
        ++ printAll (before.map (rowNode (linkColor branding)))),
      printAll (after.map (rowNode (linkColor branding)))
        ++ (closingTag "div" ++ printAll [Html.newline]), ?_, ?_⟩
    all_goals
      simp only [sessionFragment, hon, hoff, sessionHeading_switch, classDiv, Html.printAll_cons,
        Html.printAll_append, List.map_append, List.map_cons, Node.print, String.append_assoc]
  · refine ⟨sessionHeading b c ++ joinWith "" (before.map fun row => "\n" ++ row.line),
      joinWith "" (after.map fun row => "\n" ++ row.line), ?_, ?_⟩
    all_goals
      simp only [sessionForm_eq, hon, hoff, sessionHeading_switch, List.map_append, List.map_cons,
        joinWith_empty_append, joinWith_empty_cons, String.append_assoc]

/-! ## Tokens -/

/-- A row shows what a token becomes, on its own and as one of the tokens of any template. -/
structure ShowsToken (row : SessionRow) (t : Token) (c : Context) : Prop where
  value : row.value = .text (resolve t.written c)
  everywhere : ∀ (before after : String) (cut : Cut),
    cut.Cuts (before ++ t.written ++ after).toList → cut.HasAt t before.length →
      resolve (before ++ t.written ++ after) c
        = resolve before c ++ row.value.shown ++ resolve after c

theorem Detail.shows_token {d : Detail} {t : Token} (ht : d.token? = some t) (own : Option String)
    (c : Context) : ShowsToken (d.row own c) t c := by
  have hvalue : (d.row own c).value = .text (resolve t.written c) := by
    show d.value own c = _
    rw [Detail.value, ht]
  refine ⟨hvalue, fun before after cut hcut hat => ?_⟩
  rw [Placeholder.resolve_around hcut hat, hvalue,
    ← Placeholder.resolve_written (Detail.wellFormed_token ht)]
  rfl

theorem Detail.token?_eq_none_iff {d : Detail} : d.token? = none ↔ d = meeting ∨ d = notes := by
  cases d <;> simp [token?]

/-- **Rows of session details.**  The rows are those of the details that are switched on, in the
    order of the details, and each is made of the context and the detail's own field alone.  None
    has an empty label or an empty value.  Both formats show just these rows, a switch turns on or
    off one of them, and all but the address of the meeting and the notes show what a token becomes
    wherever it stands. -/
theorem session_rows_alone (b : SessionDetailsBlock) (c : Context) :
    sessionRows b c = (Detail.all.filter (·.isOn b)).map (fun d => d.row (d.own b) c)
      ∧ (∀ (d : Detail) own, (d.row own c).label ≠ "" ∧ (d.row own c).value.shown ≠ "")
      ∧ (∀ branding,
        shownRows (sessionFragment b c branding) = (sessionRows b c).map SessionRow.shown
        ∧ sessionForm b c = joinLines (sessionHeading b c :: (sessionRows b c).map SessionRow.line)
        ∧ ∀ d, SwitchesAlone d b c branding)
      ∧ ∀ d : Detail, (d.token? = none ↔ d = .meeting ∨ d = .notes)
        ∧ ∀ t, d.token? = some t → ShowsToken (d.row (d.own b) c) t c := by
  refine ⟨sessionRows_eq b c, ?_, ?_, ?_⟩
  · intro d own
    exact ⟨d.label_ne_empty own, d.value_ne_empty own c⟩
  · intro branding
    exact ⟨shownRows_sessionFragment b c branding, rfl, fun d => switches_alone d b c branding⟩
  · intro d
    exact ⟨Detail.token?_eq_none_iff, fun t ht => Detail.shows_token ht _ c⟩

/-- A session whose time is still open. -/
def openSession : Context := Dict.ofList [("session_date", "May 3"), ("session_time", "")]

/-- The cut of a line with date and time. -/
def whenCut : Cut where
  leading := "On ".toList
  tokens := [(⟨"session_date", some "TBD"⟩, " at ".toList), (⟨"session_time", some "TBD"⟩, [])]

theorem session_rows_alone_openSession :
    Detail.token? .date = some ⟨"session_date", some "TBD"⟩
      ∧ whenCut.Cuts ("On " ++ Token.written ⟨"session_date", some "TBD"⟩
        ++ " at \x7bsession_time|TBD\x7d").toList
      ∧ whenCut.HasAt ⟨"session_date", some "TBD"⟩ "On ".length
      ∧ resolve ("On " ++ Token.written ⟨"session_date", some "TBD"⟩
          ++ " at \x7bsession_time|TBD\x7d") openSession
        = resolve "On " openSession ++ (Detail.row .date none openSession).value.shown
          ++ resolve " at \x7bsession_time|TBD\x7d" openSession := by
  have hsegments : Placeholder.segments ("On " ++ Token.written ⟨"session_date", some "TBD"⟩
      ++ " at \x7bsession_time|TBD\x7d").toList
        = "On ".toList.map .literal ++ .token ⟨"session_date", some "TBD"⟩
          :: (" at ".toList.map .literal ++ [.token ⟨"session_time", some "TBD"⟩]) := by
    decide +kernel
  have hcut : whenCut.Cuts ("On " ++ Token.written ⟨"session_date", some "TBD"⟩
      ++ " at \x7bsession_time|TBD\x7d").toList := by
    rw [Cut.cuts_iff, hsegments]
    rfl
  have hat : whenCut.HasAt ⟨"session_date", some "TBD"⟩ "On ".length := ⟨[], _, _, rfl, rfl⟩
  obtain ⟨-, -, -, hrows⟩ := session_rows_alone {} openSession
  exact ⟨rfl, hcut, hat, ((hrows .date).2 _ rfl).everywhere _ _ _ hcut hat⟩

end BlockMail.Render
