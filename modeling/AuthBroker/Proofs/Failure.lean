import AuthBroker.Attempt.Event
import AuthBroker.Config.Basic
import AuthBroker.Proofs.Text.Quoted
import AuthBroker.Reply.Payload

namespace AuthBroker.Failure

open AuthBroker.Attempt

/-! Failures that show a text from outside.

The name of an unknown message, an entry that is no setting, an unknown tag and a name that is not bare come from a
helper or a file that nobody vouches for.  They are shown in quotes after words of the broker's own, which have no
quote.  So a report tells which failure it is about and what the text was, and it stays on one line.
-/

/-- What a failure shows. -/
inductive Exhibit
  | messageName
  | environmentEntry
  | replyTag
  | helperName
deriving DecidableEq

def Exhibit.failure : Exhibit → String → Failure
  | .messageName, text => .protocol (.unknownMessage text)
  | .environmentEntry, text => .protocol (.malformedEnvironment text)
  | .replyTag, text => .protocol (.invalidReply (Reply.Defect.unknownTag text).message)
  | .helperName, text => (Config.Defect.badName text).failure

/-- Where a failure is reported: to the caller, or in one of the events of the log that are about a failure. -/
inductive Report
  | diagnostic
  | refusal
  | unlaunched
  | unsent
deriving DecidableEq

def Report.text (failure : Failure) : Report → String
  | .diagnostic => failure.message
  | .refusal => (Event.refused failure).message
  | .unlaunched => (Event.sessionUnlaunched failure).message
  | .unsent => (Event.sessionUnsent failure).message

/-! ### The words around a text -/

def Report.opening : Report → Exhibit → String
  | .diagnostic, _ => ""
  | .refusal, .helperName => "authentication failed: "
  | .refusal, _ => "authentication helper protocol error: "
  | .unlaunched, _ => "failed to start session helper: "
  | .unsent, _ => "failed to send session request: "

def Exhibit.subject : Exhibit → String
  | .messageName => "unknown request message "
  | .environmentEntry => "environment entry "
  | .replyTag => "invalid helper response: unknown reply tag "
  | .helperName => "helper_name must be a bare file name, got "

def Exhibit.remark : Exhibit → String
  | .environmentEntry => " is not KEY=VALUE"
  | _ => ""

def lead (report : Report) (exhibit : Exhibit) : String :=
  report.opening exhibit ++ exhibit.subject

variable {report : Report} {exhibit exhibit' : Exhibit} {text text' : String}

theorem message_failure (exhibit : Exhibit) (text : String) :
    (exhibit.failure text).message = exhibit.subject ++ Text.quote text ++ exhibit.remark := by
  cases exhibit with
  | messageName => exact String.append_empty.symm
  | environmentEntry => rfl
  | replyTag =>
      have joined : "invalid helper response: " ++ "unknown reply tag " = Exhibit.replyTag.subject := by
        decide +kernel
      calc (Exhibit.replyTag.failure text).message
        _ = "invalid helper response: " ++ ("unknown reply tag " ++ Text.quote text) := rfl
        _ = "invalid helper response: " ++ "unknown reply tag " ++ Text.quote text := String.append_assoc.symm
        _ = Exhibit.replyTag.subject ++ Text.quote text := by rw [joined]
        _ = Exhibit.replyTag.subject ++ Text.quote text ++ Exhibit.replyTag.remark := String.append_empty.symm
  | helperName => exact String.append_empty.symm

theorem text_failure (report : Report) (exhibit : Exhibit) (text : String) :
    report.text (exhibit.failure text) = lead report exhibit ++ Text.quote text ++ exhibit.remark := by
  have told : report.text (exhibit.failure text) = report.opening exhibit ++ (exhibit.failure text).message := by
    cases report with
    | diagnostic => exact String.empty_append.symm
    | refusal => cases exhibit <;> rfl
    | unlaunched => rfl
    | unsent => rfl
  rw [told, message_failure, lead]
  simp only [String.append_assoc]

theorem isOneLine_words (report : Report) (exhibit : Exhibit) : Text.isOneLine (report.opening exhibit) = true ∧
    Text.isOneLine exhibit.subject = true ∧ Text.isOneLine exhibit.remark = true := by
  refine ⟨?_, ?_⟩
  · unfold Report.opening
    split <;> decide +kernel
  · cases exhibit <;> decide +kernel

theorem quote_not_mem_lead (report : Report) (exhibit : Exhibit) : '"' ∉ (lead report exhibit).toList := by
  have opening : '"' ∉ (report.opening exhibit).toList := by
    unfold Report.opening
    split <;> simp
  have subject : '"' ∉ exhibit.subject.toList := by
    cases exhibit <;> simp [Exhibit.subject]
  rw [lead, String.toList_append, List.mem_append]
  exact not_or_intro opening subject

theorem subject_inj (same : exhibit.subject = exhibit'.subject) : exhibit = exhibit' := by
  revert same
  cases exhibit <;> cases exhibit' <;> simp [Exhibit.subject]

theorem lead_inj (same : lead report exhibit = lead report exhibit') : exhibit = exhibit' := by
  cases report with
  | refusal =>
      revert same
      cases exhibit <;> cases exhibit' <;> simp [lead, Report.opening, Exhibit.subject]
  | diagnostic => exact subject_inj ((String.append_right_inj _).mp same)
  | unlaunched => exact subject_inj ((String.append_right_inj _).mp same)
  | unsent => exact subject_inj ((String.append_right_inj _).mp same)

/-! ### Reports -/

theorem isOneLine_text (report : Report) (exhibit : Exhibit) (text : String) :
    Text.isOneLine (report.text (exhibit.failure text)) = true := by
  obtain ⟨opening, subject, remark⟩ := isOneLine_words report exhibit
  rw [text_failure, lead]
  simp only [Text.isOneLine_append, opening, subject, remark, Text.isOneLine_quote, Bool.and_true]

/-- Failures that are reported alike show the same text in the same place. -/
theorem text_inj : report.text (exhibit.failure text) = report.text (exhibit'.failure text') ↔
    exhibit = exhibit' ∧ text = text' := by
  rw [text_failure, text_failure,
    Text.framed_inj (quote_not_mem_lead report exhibit) (quote_not_mem_lead report exhibit')]
  constructor
  · rintro ⟨leads, texts, -⟩
    exact ⟨lead_inj leads, texts⟩
  · rintro ⟨rfl, rfl⟩
    exact ⟨rfl, rfl, rfl⟩

/-- A reply with an unknown tag ends in the failure that shows the tag. -/
theorem classify_unknownTag (catalog : Catalog) (codes : ExitCodes) {payload : List UInt8}
    (unknown : Reply.parse payload = .error (.unknownTag text)) :
    classify catalog codes (Reply.decode payload) = .error (Exhibit.replyTag.failure text) := by
  rw [Reply.decode, unknown]
  rfl

/-- Every quoted text is one quotation on one line, and shows where it ends and what it quotes.  So a failure that
quotes a text from outside is reported on one line, and its report tells what was quoted and where it came from; the
failure that an unknown tag ends in is one of them. -/
theorem quoting_unambiguous :
    (∀ text, Text.Quotation (Text.quote text)) ∧
    (∀ text other rest rest', Text.quote text ++ rest = Text.quote other ++ rest' ↔ text = other ∧ rest = rest') ∧
    (∀ catalog codes payload text, Reply.parse payload = .error (.unknownTag text) →
      classify catalog codes (Reply.decode payload) = .error (Exhibit.replyTag.failure text)) ∧
    ∀ (report : Report) (exhibit : Exhibit) (text : String),
      Text.isOneLine (report.text (exhibit.failure text)) = true ∧
      ∀ (exhibit' : Exhibit) (text' : String),
        report.text (exhibit.failure text) = report.text (exhibit'.failure text') ↔ exhibit = exhibit' ∧ text = text' := by
  refine ⟨Text.quotation_quote, fun text other rest rest' => Text.quote_append_inj, ?_, ?_⟩
  · intro catalog codes payload text unknown
    exact classify_unknownTag catalog codes unknown
  · intro report exhibit text
    exact ⟨isOneLine_text report exhibit text, fun exhibit' text' => text_inj⟩

end AuthBroker.Failure
