import Chartwright.Proofs.Session.Zipper
import Chartwright.Session.Command

/-!
Calls of a session, and what one call does to the chart, the fields and the history. A call that
returns either puts a chart in place after it took a snapshot of the one before, or it is a step
through the history. A call that raises leaves the chart and the fields as they were.
-/

namespace Chartwright
open Form

/-- A call of a session, with its arguments. Builder attributes are given as a part that was read
before, or as a document of updates that the call reads. -/
inductive Call where
  | mutate (change : BuilderState → BuilderState) (description : Option String)
  | merge (part : PartialState) (description : Option String)
  | update (updates : Json) (description : Option String)
  | applyPlan (plan : Plan) (description : Option String)
  | setSpec (spec : Members) (part : Option PartialState) (description : Option String)
  | setData (rows : List Row) (description : String)
  | setDataOnly (rows : List Row) (description : Option String)
  | reset
  | capture (description : Option String)
  | undo
  | redo

/-- How a call ends. A step through the history tells whether it led anywhere. -/
inductive Ending where
  | done
  | moved (led : Bool)
  | raised (cause : EditError)

namespace Session

def compiled (session : Session) (state : BuilderState) : Chart :=
  { state, spec := Spec.compile state session.fields }

def IsCurrent (session : Session) : Prop :=
  session.chart.spec = Spec.compile session.chart.state session.fields

def ended (session : Session) : Checked Session → Session × Ending
  | .valid next => (next, .done)
  | .faulty faults => (session, .raised (.faulty faults))

def updated (session : Session) : Except EditError Session → Session × Ending
  | .ok next => (next, .done)
  | .error cause => (session, .raised cause)

def loaded : Session × Option TableError → Session × Ending
  | (next, none) => (next, .done)
  | (next, some cause) => (next, .raised (.table cause))

def stepped (step : Session × Bool) : Session × Ending := (step.1, .moved step.2)

@[simp] theorem loaded_session (loading : Session × Option TableError) :
    (loaded loading).1 = loading.1 := by
  obtain ⟨next, _ | cause⟩ := loading <;> rfl

@[simp] theorem loaded_done (loading : Session × Option TableError) :
    (loaded loading).2 = .done ↔ loading.2 = none := by
  obtain ⟨next, _ | cause⟩ := loading <;> simp [loaded]

end Session

namespace Call
open Session

def perform (session : Session) : Call → Session × Ending
  | .mutate change description =>
    (session.replaceState (change session.chart.state) description, .done)
  | .merge part description => session.ended (session.setBuilderState part description)
  | .update updates description => session.updated (session.update updates description)
  | .applyPlan plan description => (session.applyPlan plan description, .done)
  | .setSpec spec part description => session.ended (session.setSpec spec part description)
  | .setData rows description => loaded (session.setData rows description)
  | .setDataOnly rows description => loaded (session.setDataOnly rows description)
  | .reset => (session.reset, .done)
  | .capture description => (session.capture description, .done)
  | .undo => stepped session.undo
  | .redo => stepped session.redo

/-- Calls that take a snapshot of the chart and put one in place, be it the same. Other rows under
the same specification are an edit only if they are described. -/
def IsEdit : Call → Prop
  | .undo | .redo => False
  | .setDataOnly _ description => (filled? description).isSome
  | _ => True

def Builds : Call → Prop
  | .mutate .. | .merge .. | .update .. | .applyPlan .. | .setData .. | .reset => True
  | _ => False

/-- The state with a part laid over it, if the whole is valid; else the state itself. -/
def mergedState (state : BuilderState) (part : Checked PartialState) : BuilderState :=
  ((part.andThen state.merge).toOption).getD state

def updatedPart (updates : Json) : Checked PartialState :=
  match Updates.entries updates with
  | .ok entries => PartialState.read (.object entries)
  | .error _ => .faulty []

def target (session : Session) : Call → Chart
  | .mutate change _ => session.compiled (change session.chart.state)
  | .merge part _ => session.compiled (mergedState session.chart.state (.valid part))
  | .update updates _ => session.compiled (mergedState session.chart.state (updatedPart updates))
  | .applyPlan plan _ =>
    session.compiled (Operation.applyAll session.fields session.chart.state plan.operations)
  | .setSpec spec none _ => { session.chart with spec }
  | .setSpec spec (some part) _ => { state := mergedState session.chart.state (.valid part), spec }
  | .setData rows _ =>
    (session.replaceRows rows).1.compiled session.chart.state
  | .reset => session.compiled {}
  | .setDataOnly .. | .capture _ | .undo | .redo => session.chart

end Call

namespace Session

/-! A new session. -/

def room (limit : Int) : Nat := min limit.toNat History.maximum

theorem start_opens {rows : List Row} {limit : Int} {first : Session}
    (started : Session.start rows limit = .ok first) :
    0 < room limit ∧ ∃ fields, first =
      { rows, fields, chart := { spec := Spec.compile {} fields }
        history := { limit := room limit } } := by
  unfold start History.ofLimit at started
  cases inferred : Table.inferFields rows with
  | error cause => simp [inferred] at started
  | ok fields =>
      by_cases low : limit < 1
      · simp [inferred, low] at started
      · simp only [inferred, low, ↓reduceIte, Except.ok.injEq] at started
        subst started
        refine ⟨?_, fields, rfl⟩
        simp only [room, History.maximum]
        omega

theorem start_empty {rows : List Row} {limit : Int} {first : Session}
    (started : Session.start rows limit = .ok first) :
    0 < room limit ∧ first.history = { limit := room limit } := by
  obtain ⟨positive, fields, rfl⟩ := start_opens started
  exact ⟨positive, rfl⟩

theorem start_current {rows : List Row} {limit : Int} {first : Session}
    (started : Session.start rows limit = .ok first) : first.IsCurrent := by
  obtain ⟨_, fields, rfl⟩ := start_opens started
  rfl

def blank : Session :=
  { rows := [], fields := [], chart := { spec := Spec.compile {} [] }, history := { limit := 2 } }

theorem blank_starts : Session.start [] 2 = .ok blank := rfl

/-! Telling listeners changes neither chart nor fields nor history. -/

@[simp] theorem notify_chart (session : Session) : session.notify.chart = session.chart := rfl
@[simp] theorem notify_fields (session : Session) : session.notify.fields = session.fields := rfl
@[simp] theorem notify_history (session : Session) : session.notify.history = session.history := rfl

/-! A step through the history puts the chart in place that it leads to. -/

@[simp] theorem restored_history (session : Session) (step : History Chart × Option Chart) :
    (session.restored step).1.history = step.1 := by
  obtain ⟨history, _ | chart⟩ := step <;> rfl

@[simp] theorem restored_chart (session : Session) (step : History Chart × Option Chart) :
    (session.restored step).1.chart = step.2.getD session.chart := by
  obtain ⟨history, _ | chart⟩ := step <;> rfl

@[simp] theorem restored_led (session : Session) (step : History Chart × Option Chart) :
    (session.restored step).2 = step.2.isSome := by
  obtain ⟨history, _ | chart⟩ := step <;> rfl

/-- What holds of the chart and of all charts that a step leads to or leaves holds of them after the
step. -/
theorem restored_every {holds : Chart → Prop} {session : Session}
    {step : History Chart × Option Chart} (live : holds session.chart)
    (led : History.Led holds step) :
    holds (session.restored step).1.chart ∧ (session.restored step).1.history.Every holds := by
  rw [restored_chart, restored_history]
  refine ⟨?_, led.1⟩
  cases leads : step.2 with
  | none => exact live
  | some chart => exact led.2 chart leads

def captured (session : Session) (description : Option String) : History Chart :=
  (session.history.capture Chart.same session.chart description).1

/-- What an edit leaves: the chart it puts in place, and a snapshot of the one before. -/
structure Edited (before after : Session) (chart : Chart) : Prop where
  chart : after.chart = chart
  history : ∃ description, after.history = before.captured description

theorem replace_state_edits (session : Session) (state : BuilderState)
    (description : Option String) :
    session.Edited (session.replaceState state description) (session.compiled state) :=
  ⟨rfl, description, rfl⟩

/-- How an edit that compiles the specification ends. -/
inductive Built (before after : Session) : Ending → Prop where
  | returned (current : after.IsCurrent) : Built before after .done
  | raised (cause : EditError) (chart : after.chart = before.chart)
      (fields : after.fields = before.fields) : Built before after (.raised cause)

theorem set_state_returns {session next : Session} {part : PartialState}
    {description : Option String}
    (returned : session.setBuilderState part description = .valid next) :
    ∃ state, session.chart.state.merge part = .valid state ∧
      next = session.replaceState state (describedAs "Builder change" description) := by
  unfold setBuilderState at returned
  cases merged : session.chart.state.merge part with
  | faulty faults =>
      rw [merged] at returned
      cases returned
  | valid state =>
      rw [merged] at returned
      cases returned
      exact ⟨state, rfl, rfl⟩

theorem update_returns {session next : Session} {updates : Json} {description : Option String}
    (returned : session.update updates description = .ok next) :
    ∃ state, (Call.updatedPart updates).andThen session.chart.state.merge = .valid state ∧
      next = session.replaceState state (describedAs "Builder change" description) := by
  unfold update at returned
  unfold Call.updatedPart
  cases named : Updates.entries updates with
  | error cause =>
      rw [named] at returned
      cases returned
  | ok entries =>
      rw [named] at returned
      cases read : PartialState.read (.object entries) with
      | faulty faults => simp [read, Checked.andThen] at returned
      | valid part =>
          simp only [read, Checked.andThen] at returned ⊢
          cases set : session.setBuilderState part description with
          | faulty faults => simp [set] at returned
          | valid result =>
              simp only [set, Except.ok.injEq] at returned
              subst returned
              exact set_state_returns set

theorem set_spec_leaves {session next : Session} {spec : Members} {part : Option PartialState}
    {description : Option String} (returned : session.setSpec spec part description = .valid next) :
    next = { session.capture (describedAs "Spec edit" description) with
      chart := Call.target session (.setSpec spec part description) }.notify := by
  unfold setSpec at returned
  cases part with
  | none =>
      cases returned
      rfl
  | some part =>
      cases merged : session.chart.state.merge part with
      | faulty faults => simp [merged, Checked.map] at returned
      | valid state =>
          simp only [merged, Checked.map, Checked.valid.injEq] at returned
          simp [← returned, Call.target, Call.mergedState, Checked.andThen, merged,
            Checked.toOption]

theorem set_spec_returns {session next : Session} {spec : Members} {part : Option PartialState}
    {description : Option String} (returned : session.setSpec spec part description = .valid next) :
    session.Edited next (Call.target session (.setSpec spec part description)) := by
  rw [set_spec_leaves returned]
  exact ⟨rfl, _, rfl⟩

-- The rows are replaced in any case. Whether the call returns depends on their fields alone, and
-- the snapshot is taken before that is known.
theorem set_data_returns (session : Session) (rows : List Row) (description : String)
    (returned : (session.setData rows description).2 = none) :
    session.Edited (session.setData rows description).1
      (Call.target session (.setData rows description)) := by
  unfold setData replaceRows at returned ⊢
  cases inferred : Table.inferFields rows with
  | error cause => simp [inferred] at returned
  | ok fields => exact ⟨by simp [Call.target, replaceRows, inferred, compiled, capture], _, rfl⟩

theorem set_data_only_returns (session : Session) (rows : List Row) (description : Option String)
    (described : (filled? description).isSome)
    (returned : (session.setDataOnly rows description).2 = none) :
    session.Edited (session.setDataOnly rows description).1 session.chart := by
  unfold setDataOnly replaceRows at returned ⊢
  rw [if_pos described] at returned ⊢
  cases inferred : Table.inferFields rows with
  | error cause => simp [inferred] at returned
  | ok fields => exact ⟨rfl, _, rfl⟩

def placed (given : Members) : Members :=
  if (inlineRows? given).isSome then rebound given else given

/-- How a specification that was edited by hand is taken: it is refused, or it is put in place and
its rows, if it has some, become those of the session. -/
inductive HandEdit (session : Session) (given : Members) : Session × Option EditError → Prop where
  | refused (cause : EditError) : HandEdit session given (session, some cause)
  | bare (part : Option PartialState) (edited : Session) (absent : inlineRows? given = none)
      (set : session.setSpec (placed given) part (some "Manual spec edit") = .valid edited) :
      HandEdit session given (edited, none)
  | filled (part : Option PartialState) (edited : Session) (rows : List Row)
      (inline : inlineRows? given = some rows)
      (set : session.setSpec (placed given) part (some "Manual spec edit") = .valid edited) :
      HandEdit session given
        ((edited.setDataOnly rows none).1, (edited.setDataOnly rows none).2.map EditError.table)

theorem by_hand_ends (session : Session) (document : Json) :
    session.HandEdit (document.asObject?.getD []) (session.setSpecByHand document) := by
  unfold setSpecByHand
  generalize document.asObject?.getD [] = given
  by_cases valid : (Spec.check document).valid = true
  · simp only [valid, Bool.not_true, Bool.false_eq_true, ↓reduceIte]
    rw [show (if (inlineRows? given).isSome = true then rebound given else given) = placed given
      from rfl]
    generalize (if Spec.isCustomMembers (placed given) = true then none
      else some (Spec.recover (.object (placed given)))) = part
    cases set : session.setSpec (placed given) part (some "Manual spec edit") with
    | faulty faults => exact .refused _
    | valid edited =>
        cases inline : inlineRows? given with
        | none => exact .bare part edited inline set
        | some rows => exact .filled part edited rows inline set
  · simp only [valid, Bool.not_false, ↓reduceIte]
    exact .refused _

end Session

namespace Call
open Session

theorem edit_returns (session : Session) (call : Call) (edits : call.IsEdit)
    (returned : (call.perform session).2 = .done) :
    session.Edited (call.perform session).1 (call.target session) := by
  cases call with
  | mutate change description => exact replace_state_edits ..
  | merge part description =>
      simp only [perform] at returned ⊢
      cases set : session.setBuilderState part description with
      | faulty faults => simp [set, ended] at returned
      | valid next =>
          obtain ⟨state, merged, rfl⟩ := set_state_returns set
          simpa [ended, target, mergedState, Checked.andThen, merged, Checked.toOption]
            using replace_state_edits ..
  | update updates description =>
      simp only [perform] at returned ⊢
      cases set : session.update updates description with
      | error cause => simp [set, updated] at returned
      | ok next =>
          obtain ⟨state, merged, rfl⟩ := update_returns set
          simpa [updated, target, mergedState, merged, Checked.toOption]
            using replace_state_edits ..
  | applyPlan plan description => exact ⟨rfl, _, rfl⟩
  | setSpec spec part description =>
      simp only [perform] at returned ⊢
      cases set : session.setSpec spec part description with
      | faulty faults => simp [set, ended] at returned
      | valid next => exact set_spec_returns set
  | setData rows description =>
      simp only [perform, loaded_session, loaded_done] at returned ⊢
      exact set_data_returns session rows description returned
  | setDataOnly rows description =>
      simp only [perform, loaded_session, loaded_done] at returned ⊢
      exact set_data_only_returns session rows description edits returned
  | reset => exact ⟨rfl, _, rfl⟩
  | capture description => exact ⟨rfl, _, rfl⟩
  | undo | redo => cases edits

-- A call that raises may have taken its snapshot before, so how it ends does not tell which of the
-- two it is.
theorem perform_history (session : Session) (call : Call) (still : call ≠ .undo ∧ call ≠ .redo) :
    (call.perform session).1.history = session.history ∨
      ∃ description, (call.perform session).1.history = session.captured description := by
  cases call with
  | mutate change description => exact .inr ⟨description, rfl⟩
  | merge part description =>
      simp only [perform]
      cases set : session.setBuilderState part description with
      | faulty faults => exact .inl rfl
      | valid next =>
          obtain ⟨state, _, rfl⟩ := set_state_returns set
          exact .inr ⟨_, rfl⟩
  | update updates description =>
      simp only [perform]
      cases set : session.update updates description with
      | error cause => exact .inl rfl
      | ok next =>
          obtain ⟨state, _, rfl⟩ := update_returns set
          exact .inr ⟨_, rfl⟩
  | applyPlan plan description => exact .inr ⟨_, rfl⟩
  | setSpec spec part description =>
      simp only [perform]
      cases set : session.setSpec spec part description with
      | faulty faults => exact .inl rfl
      | valid next => exact .inr (set_spec_returns set).history
  | setData rows description =>
      simp only [perform, loaded_session, Session.setData, replaceRows]
      cases Table.inferFields rows <;> exact .inr ⟨_, rfl⟩
  | setDataOnly rows description =>
      simp only [perform, loaded_session, Session.setDataOnly, replaceRows]
      by_cases described : (filled? description).isSome
      · rw [if_pos described]
        cases Table.inferFields rows <;> exact .inr ⟨_, rfl⟩
      · rw [if_neg described]
        cases Table.inferFields rows <;> exact .inl rfl
  | reset => exact .inr ⟨_, rfl⟩
  | capture description => exact .inr ⟨_, rfl⟩
  | undo => exact absurd rfl still.1
  | redo => exact absurd rfl still.2

/-- An edit that compiles the specification leaves it compiled for the fields there are then, or
raises and changes neither chart nor fields. -/
theorem build_ends (session : Session) (call : Call) (builds : call.Builds) :
    session.Built (call.perform session).1 (call.perform session).2 := by
  cases call with
  | mutate _ _ | applyPlan _ _ | reset => exact .returned rfl
  | merge part description =>
      simp only [perform]
      cases set : session.setBuilderState part description with
      | faulty faults => exact .raised _ rfl rfl
      | valid next =>
          obtain ⟨state, _, rfl⟩ := set_state_returns set
          exact .returned rfl
  | update updates description =>
      simp only [perform]
      cases set : session.update updates description with
      | error cause => exact .raised _ rfl rfl
      | ok next =>
          obtain ⟨state, _, rfl⟩ := update_returns set
          exact .returned rfl
  | setData rows description =>
      simp only [perform, Session.setData, replaceRows]
      cases Table.inferFields rows with
      | error cause => exact .raised _ rfl rfl
      | ok fields => exact .returned rfl
  | setSpec _ _ _ | setDataOnly _ _ | capture _ | undo | redo => cases builds

end Call
end Chartwright
