import Chartwright.Proofs.Assistant.Fence
import Chartwright.Proofs.Assistant.Planning
import Chartwright.Proofs.Assistant.Recovery
import Chartwright.Proofs.Json.Reading
import Chartwright.Proofs.Text.Words

/-!
How the request for a whole specification ends. Whatever the model answers, there is a specification
that was read from its reply and passed the check, or the text of what went wrong, with one
exception: a reply whose lists and objects stand too deep breaks the request off.
-/

namespace Chartwright

namespace Assistant

def editAnswer (assistant : Assistant) (command : String) (spec : Json)
    (fields : List DataField) : Except PlannerError String :=
  assistant.answer Prompt.editInstructions (Prompt.editRequest command spec fields)

def edited (members : Members) : SpecEdit := { success := true, spec := some members }

/-- What is said when there is no specification, given what the model answered. -/
inductive Unedited [Json.Stack] (answered : Except PlannerError String) : String → Prop where
  | unanswered (cause : PlannerError) (failed : answered = .error cause) :
      Unedited answered (PlannerError.shortened cause.message)
  | unreadable (text : String) (told : answered = .ok text) (cause : Recovery.Cause)
      (failed : Recovery.read text = .error cause) (shallow : ∀ opened, cause ≠ .tooDeep opened) :
      Unedited answered (PlannerError.shortened cause.message)
  | rejected (text : String) (told : answered = .ok text) (document : Json)
      (read : Recovery.read text = .ok document) (wrong : (Spec.check document).valid = false) :
      Unedited answered ("invalid spec from LLM: " ++
        "; ".intercalate ((Spec.check document).errors.map (·.message)))

/-- How the request ends, given what the model answered. -/
inductive EditEnds [Json.Stack] (answered : Except PlannerError String) :
    Except PlanFailure SpecEdit → Prop where
  | edited (text : String) (told : answered = .ok text) (members : Members)
      (read : Recovery.read text = .ok (.object members))
      (right : (Spec.check (.object members)).valid = true) :
      EditEnds answered (.ok (edited members))
  | unedited (error : String) (cause : Unedited answered error) :
      EditEnds answered (.ok (.failed error))
  | brokenOff (text : String) (told : answered = .ok text) (opened : Json.Compound)
      (failed : Recovery.read text = .error (.tooDeep opened)) :
      EditEnds answered (.error (.tooDeep opened))

theorem object_of_check {document : Json} (right : (Spec.check document).valid = true) :
    ∃ members, document = .object members := by
  cases document with
  | object members => exact ⟨members, rfl⟩
  | _ => cases right

theorem text_ends [Json.Stack] {answered : Except PlannerError String} {text : String}
    (told : answered = .ok text) : EditEnds answered (SpecEdit.ofText text) := by
  unfold SpecEdit.ofText
  cases read : Recovery.read text with
  | error cause =>
      cases cause with
      | tooDeep opened => exact .brokenOff text told opened read
      | _ => exact .unedited _ (.unreadable text told _ read (by simp))
  | ok document =>
      simp only [SpecEdit.ofDocument]
      by_cases right : (Spec.check document).valid = true
      · obtain ⟨members, rfl⟩ := object_of_check right
        rw [if_pos right]
        exact .edited text told members read right
      · rw [if_neg right]
        exact .unedited _ (.rejected text told document read (by simpa using right))

theorem text_unreadable [Json.Stack] {text : String} {cause : Recovery.Cause}
    (failed : Recovery.read text = .error cause) (shallow : ∀ opened, cause ≠ .tooDeep opened) :
    SpecEdit.ofText text = .ok (.failed (PlannerError.shortened cause.message)) := by
  rw [SpecEdit.ofText, failed]
  cases cause with
  | tooDeep opened => exact absurd rfl (shallow opened)
  | _ => rfl

section Request
variable [Json.Stack]
variable {assistant : Assistant} {command : String} {spec : Json} {fields : List DataField}

theorem edit_unanswered {cause : PlannerError}
    (failed : assistant.editAnswer command spec fields = .error cause) :
    assistant.editSpec command spec fields =
      .ok (.failed (PlannerError.shortened cause.message)) := by
  unfold editAnswer at failed
  rw [Assistant.editSpec, failed]

theorem edit_answered {text : String}
    (told : assistant.editAnswer command spec fields = .ok text) :
    assistant.editSpec command spec fields = SpecEdit.ofText text := by
  unfold editAnswer at told
  rw [Assistant.editSpec, told]

theorem edit_ends_iff (outcome : Except PlanFailure SpecEdit) :
    assistant.editSpec command spec fields = outcome ↔
      EditEnds (assistant.editAnswer command spec fields) outcome := by
  constructor
  · rintro rfl
    cases answered : assistant.editAnswer command spec fields with
    | error cause =>
        rw [edit_unanswered answered]
        exact .unedited _ (.unanswered cause rfl)
    | ok text =>
        rw [edit_answered answered]
        exact text_ends rfl
  · intro ends
    cases ends with
    | edited text told members read right =>
        rw [edit_answered told, SpecEdit.ofText, read]
        simp only [SpecEdit.ofDocument, right, if_true, Json.asObject?, edited]
    | brokenOff text told opened failed => rw [edit_answered told, SpecEdit.ofText, failed]
    | unedited error cause =>
        cases cause with
        | unanswered cause failed => exact edit_unanswered failed
        | unreadable text told cause failed shallow =>
            rw [edit_answered told, text_unreadable failed shallow]
        | rejected text told document read wrong =>
            rw [edit_answered told, SpecEdit.ofText, read]
            simp [SpecEdit.ofDocument, wrong]

end Request

/-- What comes back is either a specification that was read and passed the check, or the text of
what went wrong. -/
theorem ended_checked [Json.Stack] {answered : Except PlannerError String} {edit : SpecEdit}
    (ends : EditEnds answered (.ok edit)) :
    (edit.success = true → edit.error = none ∧ ∃ text members, answered = .ok text ∧
      Recovery.read text = .ok (.object members) ∧
      (Spec.check (.object members)).valid = true ∧ edit.spec = some members) ∧
    (edit.success = false → edit.spec = none ∧
      ∃ error, edit.error = some error ∧ Unedited answered error) := by
  cases ends with
  | edited text told members read right =>
      exact ⟨fun _ => ⟨rfl, text, members, told, read, right, rfl⟩, Bool.noConfusion⟩
  | unedited error cause => exact ⟨Bool.noConfusion, fun _ => ⟨rfl, error, rfl, cause⟩⟩

def AnsweredTooDeep [Json.Stack] (answered : Except PlannerError String) : Prop :=
  ∃ text opened, answered = .ok text ∧ Recovery.read text = .error (.tooDeep opened)

theorem ended_returned [Json.Stack] {answered : Except PlannerError String} {edit : SpecEdit}
    (ends : EditEnds answered (.ok edit)) : ¬AnsweredTooDeep answered := by
  rintro ⟨text, opened, told, deep⟩
  cases ends with
  | edited other told' members read right => simp_all
  | unedited error cause =>
      cases cause with
      | unanswered cause failed => simp_all
      | unreadable other told' cause failed shallow =>
          obtain rfl : other = text := Except.ok.inj (told'.symm.trans told)
          exact shallow opened (Except.error.inj (failed.symm.trans deep))
      | rejected other told' document read wrong => simp_all

/-- How a request for a changed specification ends, whatever the model answers. What comes back is a
specification that was read from the reply and passed the check, or else none, with the text of what
went wrong. Something comes back unless the lists and objects of the reply stand too deep, which
breaks the request off. -/
theorem edit_checked [Json.Stack] (assistant : Assistant) (command : String) (spec : Json)
    (fields : List DataField) :
    (∀ outcome, assistant.editSpec command spec fields = outcome ↔
      EditEnds (assistant.editAnswer command spec fields) outcome) ∧
    (∀ edit, assistant.editSpec command spec fields = .ok edit →
      (edit.success = true → edit.error = none ∧
        ∃ text members, assistant.editAnswer command spec fields = .ok text ∧
          Recovery.read text = .ok (.object members) ∧
          (Spec.check (.object members)).valid = true ∧ edit.spec = some members) ∧
      (edit.success = false → edit.spec = none ∧ ∃ error, edit.error = some error ∧
        Unedited (assistant.editAnswer command spec fields) error)) ∧
    ((∃ edit, assistant.editSpec command spec fields = .ok edit) ↔
      ¬AnsweredTooDeep (assistant.editAnswer command spec fields)) := by
  refine ⟨edit_ends_iff, fun edit returned => ?_, ?_⟩
  · exact ended_checked ((edit_ends_iff _).mp returned)
  constructor
  · rintro ⟨edit, returned⟩
    exact ended_returned ((edit_ends_iff _).mp returned)
  · intro shallow
    cases outcome : assistant.editSpec command spec fields with
    | ok edit => exact ⟨edit, rfl⟩
    | error failure =>
        cases (edit_ends_iff _).mp outcome with
        | brokenOff text told opened failed => exact absurd ⟨text, opened, told, failed⟩ shallow

def fencedLines : String := "Done.\n```json\n" ++ "\x7b\"mark\": \"line\"\x7d" ++ "\n```"

theorem fenced_lines_answered (command : String) (spec : Json) (fields : List DataField) :
    (replying fencedLines).editAnswer command spec fields = .ok fencedLines := by
  have spoken : Reply.isBlankText fencedLines = false := by decide +kernel
  simp [editAnswer, answer, replying, Reply.text, spoken]

/-- The specification in the fence is what comes back. -/
theorem fenced_lines_taken :
    (replying fencedLines).editSpec "use lines" .null [] =
        .ok (edited [("mark", .text "line")]) ∧
      (edited [("mark", .text "line")]).success = true ∧
      ∃ text, (replying fencedLines).editAnswer "use lines" .null [] = .ok text ∧
        Recovery.read text = .ok (.object [("mark", .text "line")]) := by
  obtain ⟨ends, checked, -⟩ := edit_checked (replying fencedLines) "use lines" .null []
  have told := fenced_lines_answered "use lines" .null []
  have read : Recovery.read fencedLines = .ok (.object [("mark", .text "line")]) :=
    Recovery.read_out_of_prose "Done.\n```json\n" "\x7b\"mark\": \"line\"\x7d" "\n```" _ rfl rfl
      (by simp)
  have returned := (ends (.ok (edited [("mark", .text "line")]))).mpr (.edited _ told _ read rfl)
  obtain ⟨-, text, members, told', read', -, same⟩ := (checked _ returned).1 rfl
  obtain rfl := Option.some.inj same
  exact ⟨returned, rfl, text, told', read'⟩

end Assistant

/-! A reply of opening brackets alone. -/

namespace Recovery
open Text Pattern

variable (count : Nat)

def brackets : List Char := List.replicate count '['

theorem brackets_trimmed : trim (brackets count) = brackets count := by
  have shown : isBlank '[' = false := by decide
  apply trim_tight
  constructor <;> intro c inside
  · rw [List.eq_of_mem_replicate (List.mem_of_mem_head? inside), shown]
  · rw [List.eq_of_mem_replicate (List.mem_of_mem_getLast? inside), shown]

theorem brackets_unfenced : unfenced (brackets count) = brackets count := by
  have same : unfenced (brackets count) = substitute fence (trim (brackets count)) := rfl
  rw [same, brackets_trimmed]
  apply substitute_unfound
  -- A fence would take a bracket.
  cases searched : search fence (brackets count) with
  | none => simp [occurs, searched]
  | some found =>
      obtain ⟨place, finds, split⟩ := search_from_finds searched
      obtain ⟨taken, more, ahead, all⟩ := fence_takes finds
      obtain ⟨c, inside⟩ := List.exists_mem_of_ne_nil taken more
      have bracket : c ∈ brackets count := by
        rw [split, ahead]
        simp [inside]
      rw [List.eq_of_mem_replicate bracket] at inside
      exact absurd (all '[' inside) (by decide)

variable {count}

theorem brackets_spoken (some_ : 0 < count) : (trim (brackets count)).isEmpty = false := by
  obtain ⟨more, rfl⟩ : ∃ more, count = more + 1 := ⟨count - 1, by omega⟩
  rw [brackets_trimmed]
  rfl

theorem brackets_not_read [Json.Stack] (many : Json.Stack.depth < count) :
    Recovery.read (String.ofList (brackets count)) = .error (.tooDeep .list) := by
  have failed : Json.Reading.start.after (brackets count) = ⟨.failed ⟨.tooDeep .list, 0⟩, []⟩ :=
    Json.Reading.brackets_too_deep count false [] (Nat.zero_le _) many
  obtain ⟨⟨cause, position⟩, read, rfl⟩ := Json.readBare_failed failed
  have unmarked : (brackets count).head? ≠ some Json.byteOrderMark := by
    intro marked
    have bracket := List.eq_of_mem_replicate (List.mem_of_mem_head? marked)
    exact absurd bracket (by decide)
  have whole : Json.read (brackets count) = .error { cause := .tooDeep .list, position } := by
    rw [Json.read, if_neg unmarked, read]
  have spoken := brackets_spoken (Nat.lt_of_le_of_lt (Nat.zero_le _) many)
  rw [Recovery.read, String.toList_ofList, brackets_unfenced]
  simp only [spoken, readOr, whole]
  rfl

end Recovery

namespace Assistant
open Recovery

theorem brackets_answered {count : Nat} (some_ : 0 < count) (command : String) (spec : Json)
    (fields : List DataField) :
    (replying (String.ofList (brackets count))).editAnswer command spec fields =
      .ok (String.ofList (brackets count)) := by
  have spoken : Reply.isBlankText (String.ofList (brackets count)) = false := by
    rw [Reply.isBlankText, String.toList_ofList, brackets_spoken some_]
  simp [editAnswer, answer, replying, Reply.text, spoken]

/-- On no stack is every request answered: more opening brackets than it has room for break it
off. -/
theorem request_broken_off :
    ¬∃ _ : Json.Stack, ∀ (assistant : Assistant) (command : String) (spec : Json)
      (fields : List DataField), ∃ edit, assistant.editSpec command spec fields = .ok edit := by
  rintro ⟨_, always⟩
  obtain ⟨edit, returned⟩ :=
    always (replying (String.ofList (brackets (Json.Stack.depth + 1)))) "bold title" .null []
  have told := brackets_answered (Nat.succ_pos Json.Stack.depth) "bold title" .null []
  have broken := (edit_ends_iff (.error (.tooDeep .list))).mpr
    (.brokenOff _ told .list (brackets_not_read (Nat.lt_succ_self _)))
  rw [broken] at returned
  cases returned

end Assistant
end Chartwright
