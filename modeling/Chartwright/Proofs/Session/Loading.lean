import Chartwright.Proofs.Edit.Validity
import Chartwright.Proofs.Session.Work
import Chartwright.Proofs.Table.Inference

/-!
What a data edit that breaks off leaves behind. The snapshot is taken before the rows are copied,
and the rows are replaced before their fields are inferred. So rows too deep to be copied leave a
snapshot beside the old rows, and rows with an integer beyond all floating-point numbers are in
place beside the old fields. A specification that is edited by hand is in place by then as well.
-/

namespace Chartwright
open Form

namespace Session

/-- The history after other rows came under the same specification: with a snapshot if they are
described. -/
def noted (session : Session) (description : Option String) : History Chart :=
  if (filled? description).isSome then session.captured description else session.history

def notedCopies (session : Session) (description : Option String) : List Copy :=
  if (filled? description).isSome then session.snapshotCopies else []

/-- How loading rows ends when it starts with these copies for a snapshot, which make this history,
and leads to a chart that may depend on the new fields. -/
inductive Loading (fits : Copy → Bool) (before : Session) (rows : List Row) (copies : List Copy)
    (history : History Chart) (chart : List DataField → Chart) :
    EStateM.Result (Halt EditError) Session Unit → Prop where
  | untaken (copy : Copy) (made : copy ∈ copies) (narrow : fits copy = false)
      (left : History Chart) (cut : left = before.history.branched ∨ left = history) :
      Loading fits before rows copies history chart
        (.error (.outOfStack copy) { before with history := left })
  | uncopied (taken : ∀ copy ∈ copies, fits copy = true) (narrow : fits (.loaded rows) = false) :
      Loading fits before rows copies history chart
        (.error (.outOfStack (.loaded rows)) { before with history })
  | overflown (taken : ∀ copy ∈ copies, fits copy = true) (copied : fits (.loaded rows) = true)
      (overflows : Table.Overflows rows) :
      Loading fits before rows copies history chart
        (.error (.raised (.table .integerTooLarge)) { before with rows, history })
  | unshown (taken : ∀ copy ∈ copies, fits copy = true) (copied : fits (.loaded rows) = true)
      (fields : List DataField) (inferred : Table.inferFields rows = .ok fields)
      (heard : before.listeners.any (·.isActive) = true)
      (narrow : fits (.shown (chart fields)) = false) :
      Loading fits before rows copies history chart
        (.error (.outOfStack (.shown (chart fields)))
          { before with rows, fields, history, chart := chart fields })
  | returned (taken : ∀ copy ∈ copies, fits copy = true) (copied : fits (.loaded rows) = true)
      (fields : List DataField) (inferred : Table.inferFields rows = .ok fields)
      (shown : ∀ copy ∈ before.noticeCopies (chart fields), fits copy = true) :
      Loading fits before rows copies history chart
        (.ok () { before with rows, fields, history, chart := chart fields }.notify)

end Session

namespace Work
open Session
variable {fits : Copy → Bool}

theorem replace_loads {before : Session} {rows : List Row} {copies : List Copy}
    {history : History Chart} {chart : List DataField → Chart} {rest : Work EditError Unit}
    (taken : ∀ copy ∈ copies, fits copy = true)
    (finishes : ∀ fields, rest { before with rows, fields, history } =
      notify fits { before with rows, fields, history, chart := chart fields }) :
    Loading fits before rows copies history chart
      ((replaceRows fits rows >>= fun _ => rest) { before with history }) := by
  simp only [replaceRows, bind_run, make_run]
  by_cases copied : fits (.loaded rows) = true
  · simp only [copied, ↓reduceIte, get_run, set_run, Session.replaceRows]
    rcases Table.fails_or_returns (Table.inferFields rows) with fails | ⟨fields, inferred⟩
    · simp only [fails]
      exact .overflown taken copied ((Table.infer_fails_iff rows).mp fails)
    · simp only [inferred, pure_run, finishes, notify_run]
      cases heard : before.listeners.any (·.isActive) with
      | false => exact .returned taken copied fields inferred (by simp [noticeCopies, heard])
      | true =>
          cases room : fits (.shown (chart fields)) with
          | false => exact .unshown taken copied fields inferred heard room
          | true =>
              exact .returned taken copied fields inferred (by simp [noticeCopies, heard, room])
  · simp only [copied]
    exact .uncopied taken (Bool.of_not_eq_true copied)

theorem data_loads (rows : List Row) (description : String) (session : Session) :
    Loading fits session rows session.snapshotCopies (session.captured (some description))
      (fun fields => { session.chart with spec := Spec.compile session.chart.state fields })
      (setData fits rows description session) := by
  refine capture_then (some description) (fun copy made narrow history cut => ?_) fun taken => ?_
  · exact .untaken copy made narrow history cut
  · exact replace_loads taken fun fields => rfl

theorem data_only_loads (rows : List Row) (description : Option String) (session : Session) :
    Loading fits session rows (session.notedCopies description) (session.noted description)
      (fun _ => session.chart) (setDataOnly fits rows description session) := by
  unfold setDataOnly notedCopies noted
  by_cases described : (filled? description).isSome = true
  · simp only [described, ↓reduceIte]
    refine capture_then description (fun copy made narrow history cut => ?_) fun taken => ?_
    · exact .untaken copy made narrow history cut
    · exact replace_loads taken fun fields => rfl
  · simp only [described, Bool.false_eq_true, ↓reduceIte]
    exact replace_loads (List.forall_mem_nil _) fun fields => rfl

end Work

namespace Session
variable {fits : Copy → Bool}

/-- The session once a specification that was edited by hand is in place beside a state. -/
def handPlaced (session : Session) (given : Members) (state : BuilderState) : Session :=
  { session.capture (some "Manual spec edit") with
    chart := { state, spec := placed given } }.notify

/-- How a specification that was edited by hand is taken: it is refused, too deep to be copied, not
put in place for want of room, or in place. Then its rows are loaded, if it has some. -/
inductive TakenByHand (fits : Copy → Bool) (before : Session) (given : Members) :
    EStateM.Result (Halt EditError) Session Unit → Prop where
  | refused (cause : EditError) : TakenByHand fits before given (.error (.raised cause) before)
  | uncopied (narrow : fits (.edited given) = false) :
      TakenByHand fits before given (.error (.outOfStack (.edited given)) before)
  | unplaced (state : BuilderState) (copy : Copy)
      (made : copy ∈ before.placeCopies { state, spec := placed given }) (left : Session)
      (off : BrokenOff fits before (before.handPlaced given state) copy left) :
      TakenByHand fits before given (.error (.outOfStack copy) left)
  | bare (state : BuilderState) (absent : inlineRows? given = none) :
      TakenByHand fits before given (.ok () (before.handPlaced given state))
  | filled (state : BuilderState) (rows : List Row) (inline : inlineRows? given = some rows)
      (result : EStateM.Result (Halt EditError) Session Unit)
      (loading : Loading fits (before.handPlaced given state) rows []
        (before.captured (some "Manual spec edit"))
        (fun _ => { state, spec := placed given }) result) :
      TakenByHand fits before given result

theorem placed_taken (session : Session) (given : Members) (state : BuilderState) :
    TakenByHand fits session given
      (((Work.place fits (placed given) state (some "Manual spec edit") : Work EditError Unit) >>=
        fun _ => match inlineRows? given with
          | none => pure ()
          | some rows => Work.setDataOnly fits rows none) session) := by
  have ends : Limited fits (session.placeCopies { state, spec := placed given }) session
      (session.handPlaced given state) ()
      ((Work.place fits (placed given) state (some "Manual spec edit") : Work EditError Unit)
        session) := Work.place_limited (placed given) state (some "Manual spec edit") session
  rw [Work.bind_run]
  generalize (Work.place fits (placed given) state (some "Manual spec edit") : Work EditError Unit)
    session = result at ends ⊢
  cases ends with
  | brokenOff copy made left off => exact .unplaced state copy made left off
  | returned roomy =>
      -- The rows are loaded without a description, so there is no second snapshot.
      cases inline : inlineRows? given with
      | none => exact .bare state inline
      | some rows => exact .filled state rows inline _ (Work.data_only_loads rows none _)

theorem by_hand_taken (document : Json) (session : Session) :
    TakenByHand fits session (document.asObject?.getD [])
      (Work.setSpecByHand fits document session) := by
  unfold Work.setSpecByHand
  generalize document.asObject?.getD [] = given
  by_cases valid : (Spec.check document).valid = true
  · simp only [valid, Bool.not_true, Bool.false_eq_true, ↓reduceIte, Work.bind_run, Work.make_run]
    by_cases room : fits (.edited given) = true
    · simp only [room, ↓reduceIte]
      rw [show (if (inlineRows? given).isSome = true then rebound given else given) = placed given
        from rfl]
      rw [Work.spec_run]
      generalize (Option.map session.chart.state.merge _).getD (.valid session.chart.state) = merged
      cases merged with
      | faulty faults => exact .refused _
      | valid state =>
          have taken : TakenByHand fits session given _ := placed_taken session given state
          rw [Work.bind_run] at taken
          exact taken
    · simp only [room]
      exact .uncopied (Bool.of_not_eq_true room)
  · simp only [valid, Bool.not_false, ↓reduceIte, Work.bind_run, Work.raise_run]
    exact .refused _

/-- Edits of the data that break off are half done. If there is no room for a copy of the rows, a
snapshot was taken for rows that never came. If one of the first records holds an integer beyond all
floating-point numbers, the new rows are there too, while chart and fields are the old ones. A
specification that is edited by hand is refused without a trace, or it is in place when its own rows
break off the edit in one of these ways. -/
theorem raised_edit_half_done (fits : Copy → Bool) (session : Session) :
    (∀ rows description,
      Loading fits session rows session.snapshotCopies (session.captured (some description))
        (fun fields => { session.chart with spec := Spec.compile session.chart.state fields })
        (Work.setData fits rows description session)) ∧
    (∀ rows description,
      Loading fits session rows (session.notedCopies description) (session.noted description)
        (fun _ => session.chart) (Work.setDataOnly fits rows description session)) ∧
    ∀ document, TakenByHand fits session (document.asObject?.getD [])
      (Work.setSpecByHand fits document session) :=
  ⟨fun rows description => Work.data_loads rows description session,
    fun rows description => Work.data_only_loads rows description session,
    fun document => by_hand_taken document session⟩

def hugeInteger : Json := .int (Int.ofNat (Nat.pow 10 400))

def hugeRows : List Row := [.record [("a", .value hugeInteger)]]

def hugeSpec : Json :=
  .object [("mark", .text "bar"),
    ("data", .object [("values", .list [.object [("a", hugeInteger)]])])]

theorem huge_rows_overflow : Table.Overflows hugeRows := by
  refine ⟨[("a", .value hugeInteger)], List.mem_singleton.mpr rfl, "a", .value hugeInteger, rfl,
    Int.ofNat (Nat.pow 10 400), rfl, ?_⟩
  decide +kernel

/-- One row with lists within each other for its only cell. -/
def deepRows : List Row := [.record [("a", .value (Operation.nested 600))]]

theorem huge_rows_half_loaded :
    (∃ left, Work.setData Copy.isMade hugeRows "Load data" blank =
        .error (.raised (.table .integerTooLarge)) left ∧
      left.rows = hugeRows ∧ blank.rows = [] ∧ left.history.size = 1 ∧ blank.history.size = 0) ∧
    (∃ left, Work.setData Copy.isMade deepRows "Load data" blank =
        .error (.outOfStack (.loaded deepRows)) left ∧
      left.rows = [] ∧ left.history.size = 1) ∧
    ∃ left, Work.setSpecByHand Copy.isMade hugeSpec blank =
        .error (.raised (.table .integerTooLarge)) left ∧
      left.rows = hugeRows ∧ left.fields = [] := by
  obtain ⟨loads, -, edits⟩ := raised_edit_half_done Copy.isMade blank
  have snapped : ∀ copy ∈ blank.snapshotCopies, Copy.isMade copy = true := by decide +kernel
  have huge : Copy.isMade (.loaded hugeRows) = true := by decide +kernel
  have deep : Copy.isMade (.loaded deepRows) = false := by decide +kernel
  have failed := (Table.infer_fails_iff hugeRows).mpr huge_rows_overflow
  refine ⟨?_, ?_, ?_⟩
  · have ends := loads hugeRows "Load data"
    generalize Work.setData Copy.isMade hugeRows "Load data" blank = result at ends
    cases ends with
    | overflown taken copied overflows => exact ⟨_, rfl, rfl, rfl, rfl, rfl⟩
    | untaken copy made narrow left cut => simp [snapped copy made] at narrow
    | uncopied taken narrow => simp [huge] at narrow
    | unshown taken copied fields inferred heard narrow => simp [failed] at inferred
    | returned taken copied fields inferred shown => simp [failed] at inferred
  · have ends := loads deepRows "Load data"
    generalize Work.setData Copy.isMade deepRows "Load data" blank = result at ends
    cases ends with
    | uncopied taken narrow => exact ⟨_, rfl, rfl, rfl⟩
    | untaken copy made narrow left cut => simp [snapped copy made] at narrow
    | overflown taken copied overflows => simp [deep] at copied
    | unshown taken copied fields inferred heard narrow => simp [deep] at copied
    | returned taken copied fields inferred shown => simp [deep] at copied
  · have ends := edits hugeSpec
    have replaced : (match Work.setSpecByHand Copy.isMade hugeSpec blank with
        | .ok _ _ => true
        | .error _ left => left.rows.isEmpty) = false := by decide +kernel
    generalize Work.setSpecByHand Copy.isMade hugeSpec blank = result at ends replaced
    cases ends with
    | refused cause => cases replaced
    | uncopied narrow => cases replaced
    | unplaced state copy made left off => simp [off.rows, blank] at replaced
    | bare state absent => cases replaced
    | filled state rows inline result loading =>
        cases inline
        cases loading with
        | overflown taken copied overflows => exact ⟨_, rfl, rfl, rfl⟩
        | untaken copy made narrow left cut => cases made
        | uncopied taken narrow => cases replaced
        | unshown taken copied fields inferred heard narrow => cases heard
        | returned taken copied fields inferred shown => cases replaced

end Session
end Chartwright
