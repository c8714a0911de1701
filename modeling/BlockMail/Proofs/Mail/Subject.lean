import BlockMail.Proofs.Mail.Consistency
import BlockMail.Proofs.Placeholder.Blankness
import BlockMail.Proofs.Placeholder.Concatenation

/-! # Subjects

A document without a subject gets the default one, so whether a subject is there is asked of the
template.  What goes out is the template filled in.  The two can differ, but only for a template
that is white space and tokens that stand for white space: `FadesOut`.
-/

namespace BlockMail.Mailer

open Placeholder (FadesOut BlankValue Token resolve resolve_of_no_token isBlank_resolve_iff)

/-- The messages that have been handed to the provider when a request ends in a result. -/
def handedOver (settings : MailSettings) (request : SendRequest) :
    Except MailError SendOutcome → List OutgoingEmail
  | .ok (.skipped _) => []
  | _ => if (fault? request).isSome then [] else [message settings request]

theorem send_handing {m : Type → Type} [Monad m] [LawfulMonad m] (mailer : Mailer m)
    (request : SendRequest) (handed : List OutgoingEmail) :
    (mailer.watched fun email handed => handed ++ [email]).send request handed
      = (fun result => (result, handed ++ handedOver mailer.settings request result))
        <$> mailer.send request := by
  rw [send_watched]
  refine congrArg (· <$> mailer.send request) (funext fun result => ?_)
  cases hfault : fault? request <;> rcases result with e | ⟨id, rendered⟩ | reason <;>
    simp [noted, handedOver, hfault]

theorem eq_message_of_mem_handedOver {settings : MailSettings} {request : SendRequest}
    {result : Except MailError SendOutcome} {mail : OutgoingEmail}
    (h : mail ∈ handedOver settings request result) : mail = message settings request := by
  unfold handedOver at h
  split at h
  · cases h
  · split at h
    · cases h
    · exact List.mem_singleton.mp h

theorem subject_of_isBlank {settings : MailSettings} {request : SendRequest}
    (hplain : '\x7b' ∉ settings.defaultSubject.toList)
    (hblank : Text.isBlank request.document.subject = true) :
    (message settings request).subject = settings.defaultSubject := by
  show resolve (withSubject settings request.document).subject _ = _
  rw [withSubject, if_pos hblank]
  apply resolve_of_no_token
  intro t n hoccurs
  exact hplain hoccurs.braces_mem.1

theorem subject_of_not_isBlank {settings : MailSettings} {request : SendRequest}
    (hgiven : Text.isBlank request.document.subject = false) :
    (message settings request).subject
      = resolve request.document.subject request.document.data := by
  show resolve (withSubject settings request.document).subject
    (withSubject settings request.document).data = _
  rw [withSubject, if_neg (Bool.eq_false_iff.mp hgiven)]

theorem isBlank_subject_iff {settings : MailSettings}
    (hdefault : Text.isBlank settings.defaultSubject = false)
    (hplain : '\x7b' ∉ settings.defaultSubject.toList) (request : SendRequest) :
    Text.isBlank (message settings request).subject = true
      ↔ Text.isBlank request.document.subject = false
        ∧ FadesOut request.document.subject request.document.data := by
  cases hsubject : Text.isBlank request.document.subject with
  | true => simp [subject_of_isBlank hplain hsubject, hdefault]
  | false => simp [subject_of_not_isBlank hsubject, isBlank_resolve_iff]

/-- **Blank subjects.**  With a default that is not blank and has no brace in it, a message goes out
    under a blank subject only if the document has a subject that fades out: one that is not blank,
    and is nothing but white space and tokens that stand for white space. -/
theorem blank_subject_iff {m : Type → Type} [Monad m] [LawfulMonad m] (mailer : Mailer m)
    (hdefault : Text.isBlank mailer.settings.defaultSubject = false)
    (hplain : '\x7b' ∉ mailer.settings.defaultSubject.toList) (request : SendRequest) :
    (∀ handed, (mailer.watched fun email handed => handed ++ [email]).send request handed
        = (fun result => (result, handed ++ handedOver mailer.settings request result))
          <$> mailer.send request)
      ∧ ∀ result, ∀ mail ∈ handedOver mailer.settings request result,
        (Text.isBlank mail.subject = true ↔ Text.isBlank request.document.subject = false
            ∧ FadesOut request.document.subject request.document.data)
          ∧ (Text.isBlank request.document.subject = true →
            mail.subject = mailer.settings.defaultSubject) := by
  refine ⟨send_handing mailer request, fun result mail hmail => ?_⟩
  obtain rfl := eq_message_of_mem_handedOver hmail
  exact ⟨isBlank_subject_iff hdefault hplain request, subject_of_isBlank hplain⟩

/-- A request for a message about a client whose name is a space. -/
def unnamed : SendRequest where
  recipient := "ada@example.org"
  document :=
    { subject := "\x7bclient_name\x7d"
      blocks := [⟨"hello", 0, .text { content := "Hello" }⟩]
      data := Dict.ofList [("client_name", " ")] }

theorem fault?_unnamed : fault? unnamed = none := by decide +kernel

theorem blank_subject_iff_unnamed :
    Text.isBlank keeper.settings.defaultSubject = false
      ∧ '\x7b' ∉ keeper.settings.defaultSubject.toList
      ∧ ∃ mail ∈ handedOver keeper.settings unnamed (.ok (.sent "mock-0" (rendering {} unnamed))),
        Text.isBlank mail.subject = true ↔ Text.isBlank unnamed.document.subject = false
          ∧ FadesOut unnamed.document.subject unnamed.document.data := by
  have hdefault : Text.isBlank keeper.settings.defaultSubject = false := by decide
  have hplain : '\x7b' ∉ keeper.settings.defaultSubject.toList := by decide
  have hmail : message {} unnamed ∈ handedOver keeper.settings unnamed
      (.ok (.sent "mock-0" (rendering {} unnamed))) := by
    simp [handedOver, fault?_unnamed, keeper]
  obtain ⟨-, hmails⟩ := blank_subject_iff keeper hdefault hplain unnamed
  exact ⟨hdefault, hplain, _, hmail, (hmails _ _ hmail).1⟩

/-- The space goes out as the subject. -/
theorem blank_subject_sent :
    Text.isBlank keeper.settings.defaultSubject = false
      ∧ '\x7b' ∉ keeper.settings.defaultSubject.toList
      ∧ (keeper.watched fun email handed => handed ++ [email]).send unnamed [] {}
        = ((.ok (.sent "mock-0" (rendering {} unnamed)), [message {} unnamed]),
          ⟨[message {} unnamed]⟩)
      ∧ (message {} unnamed).subject = " " := by
  have hsend : keeper.send unnamed {}
      = (.ok (.sent "mock-0" (rendering {} unnamed)), ⟨[message {} unnamed]⟩) := by
    rw [send_of_no_fault fault?_unnamed]
    rfl
  refine ⟨by decide, by decide, ?_, ?_⟩
  · rw [send_handing, run_map_of_eq _ hsend]
    simp [handedOver, fault?_unnamed, keeper]
  · have hwritten : unnamed.document.subject = Token.written ⟨"client_name", none⟩ := by decide
    rw [subject_of_not_isBlank (by decide), hwritten, Placeholder.resolve_written (by decide)]
    decide

end BlockMail.Mailer
