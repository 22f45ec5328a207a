import Chartwright.Proofs.Session.Loading

/-!
Calls of a session that may be broken off by a copy. With room for all copies they are the calls
without that limit. One that is broken off leaves the chart there was or the one that the call leads
to, beside the history that there was, what a snapshot made of it, or the history that the call
leads to. So what holds of the charts of a session before and after a call holds of what is left of
it.
-/

namespace Chartwright
open Form

namespace Session
variable {Cause α : Type}

/-- The session that is left by work, whether it returned or broke off. -/
def left : EStateM.Result (Halt Cause) Session α → Session
  | .ok _ after => after
  | .error _ left => left

/-- What may be left of a call from one session to another that a copy breaks off. -/
structure CutShort (before after left : Session) : Prop where
  chart : left.chart = before.chart ∨ left.chart = after.chart
  history : left.history = before.history ∨ left.history = before.history.branched ∨
    (∃ description, left.history = before.captured description) ∨ left.history = after.history

theorem off_cut_short {fits : Copy → Bool} {before after left : Session} {copy : Copy}
    (off : BrokenOff fits before after copy left) : CutShort before after left where
  chart := off.chart.imp id And.right
  history := off.history.imp id fun later => later.imp id .inl

end Session

namespace Call
open Session
variable {fits : Copy → Bool}

def work (fits : Copy → Bool) : Call → Work EditError Ending
  | .mutate change description => do
    Work.mutate fits change description
    return .done
  | .merge part description => do
    Work.setBuilderState fits part description
    return .done
  | .update updates description => do
    Work.update fits updates description
    return .done
  | .applyPlan plan description => do
    Work.applyPlan fits plan description
    return .done
  | .setSpec spec part description => do
    Work.setSpec fits spec part description
    return .done
  | .setData rows description => do
    Work.setData fits rows description
    return .done
  | .setDataOnly rows description => do
    Work.setDataOnly fits rows description
    return .done
  | .reset => do
    Work.reset fits
    return .done
  | .capture description => do
    Work.capture fits description
    return .done
  | .undo => do return .moved (← Work.undo fits)
  | .redo => do return .moved (← Work.redo fits)

def result : Session × Ending → EStateM.Result (Halt EditError) Session Ending
  | (left, .raised cause) => .error (.raised cause) left
  | (after, ending) => .ok ending after

/-- How a call ends that does this if it is not broken off. -/
inductive Ends (fits : Copy → Bool) (before : Session) (full : Session × Ending) :
    EStateM.Result (Halt EditError) Session Ending → Prop where
  | whole : Ends fits before full (result full)
  | brokenOff (copy : Copy) (narrow : fits copy = false) (left : Session)
      (short : CutShort before full.1 left) : Ends fits before full (.error (.outOfStack copy) left)

theorem ends_limited {copies : List Copy} {session middle after : Session}
    {work : Work EditError Unit} (ends : Limited fits copies session after () (work middle)) :
    Ends fits session (after, .done) ((work >>= fun _ => pure .done) middle) := by
  rw [Work.bind_run]
  generalize work middle = result at ends ⊢
  cases ends with
  | returned roomy => exact .whole
  | brokenOff copy made left off => exact .brokenOff copy off.narrow left (off_cut_short off)

theorem ends_loading {rows : List Row} {copies : List Copy} {session : Session}
    {taken : Option String} {history : History Chart} {chart : List DataField → Chart}
    {work : Work EditError Unit} {full : Session × Option TableError}
    (captured : history = session.history ∨ history = session.captured taken)
    (overflown : Table.inferFields rows = .error .integerTooLarge →
      full = ({ session with rows, history }, some .integerTooLarge))
    (inferred : ∀ fields, Table.inferFields rows = .ok fields →
      full = ({ session with rows, fields, history, chart := chart fields }.notify, none))
    (loading : Loading fits session rows copies history chart (work session)) :
    Ends fits session (loaded full) ((work >>= fun _ => pure .done) session) := by
  have kept : history = session.history ∨ history = session.history.branched ∨
      (∃ description, history = session.captured description) ∨
        history = (loaded full).1.history :=
    captured.imp id fun same => .inr (.inl ⟨taken, same⟩)
  rw [Work.bind_run]
  generalize work session = result at loading ⊢
  cases loading with
  | untaken copy made narrow left cut =>
      refine .brokenOff copy narrow _ ⟨.inl rfl, ?_⟩
      rcases cut with rfl | rfl
      · exact .inr (.inl rfl)
      · exact kept
  | uncopied snapped narrow => exact .brokenOff _ narrow _ ⟨.inl rfl, kept⟩
  | overflown snapped copied overflows =>
      rw [overflown ((Table.infer_fails_iff rows).mpr overflows)]
      exact .whole
  | unshown snapped copied fields read heard narrow =>
      refine .brokenOff _ narrow _ ⟨.inr ?_, kept⟩
      rw [inferred fields read]
      rfl
  | returned snapped copied fields read shown =>
      rw [inferred fields read]
      exact .whole

theorem ends_captured {rest : Work EditError Ending} {session : Session} {full : Session × Ending}
    (description : Option String)
    (ends : Ends fits session full (rest (session.capture description))) :
    Ends fits session full ((Work.capture fits description >>= fun _ => rest) session) := by
  refine Work.capture_then description (fun copy made narrow history cut => ?_) fun _ => ends
  refine .brokenOff copy narrow _ ⟨.inl rfl, .inr ?_⟩
  exact cut.imp id fun taken => .inl ⟨description, taken⟩

-- The step may start from another history than the call, with a snapshot of the chart on top.
theorem ends_restored (step : History Chart × Option Chart) (session : Session)
    (history : History Chart) :
    Ends fits session (stepped (session.restored step))
      ((Work.restore fits step >>= fun led => pure (.moved led)) { session with history }) := by
  obtain ⟨stepped, _ | chart⟩ := step
  · exact .whole
  · simp only [Work.restore, Work.put, Work.bind_run, Work.modify_run, Work.make_run,
      Work.notify_run]
    by_cases copied : fits (.restored chart) = true
    · simp only [copied, ↓reduceIte]
      cases room : !session.listeners.any (·.isActive) || fits (.shown chart) with
      | true => exact .whole
      | false =>
          exact .brokenOff _ (Bool.or_eq_false_iff.mp room).2 _
            ⟨.inr rfl, .inr (.inr (.inr rfl))⟩
    · simp only [copied]
      exact .brokenOff _ (Bool.of_not_eq_true copied) _ ⟨.inl rfl, .inr (.inr (.inr rfl))⟩

-- States are checked before any copy is made, so a call that is refused is whole.
theorem ends_checked {given : Checked BuilderState} {session : Session} {work : Work EditError Unit}
    {enter : BuilderState → Work EditError Unit} {next : BuilderState → Session}
    {copies : BuilderState → List Copy}
    (entered : work session = match given with
      | .valid state => enter state session
      | .faulty faults => .error (.raised (.faulty faults)) session)
    (limited : ∀ state, Limited fits (copies state) session (next state) () (enter state session)) :
    Ends fits session (session.ended (given.map next))
      ((work >>= fun _ => pure .done) session) := by
  cases given with
  | valid state =>
      have same : work session = enter state session := entered
      have ends := limited state
      rw [← same] at ends
      exact ends_limited ends
  | faulty faults =>
      rw [Work.bind_run, entered]
      exact .whole

theorem update_ended {updates : Json} {entries : Members} (description : Option String)
    (session : Session) (named : Updates.entries updates = .ok entries) :
    session.updated (session.update updates description) =
      session.ended (((PartialState.read (.object entries)).andThen session.chart.state.merge).map
        fun state => session.replaceState state (describedAs "Builder change" description)) := by
  unfold Session.update
  simp only [named]
  cases PartialState.read (.object entries) with
  | faulty faults => rfl
  | valid part =>
      simp only [Checked.andThen, Session.setBuilderState]
      cases session.chart.state.merge part <;> rfl

theorem update_ends (updates : Json) (description : Option String) (session : Session) :
    Ends fits session (perform session (.update updates description))
      (work fits (.update updates description) session) := by
  cases named : Updates.entries updates with
  | error cause =>
      simp only [work, perform, Work.bind_run, Work.update_run, Session.update, named]
      exact .whole
  | ok entries =>
      simp only [work, perform, update_ended description session named]
      exact ends_checked (Work.update_read_run description session named) fun state =>
        Work.mutate_limited (fun _ => state) _ session

theorem undo_ends (session : Session) :
    Ends fits session (perform session .undo) (work fits .undo session) := by
  by_cases behind : session.isBehind = true
  · have step : session.history.undo Chart.same (some session.chart) =
        (session.captured (some History.tipDescription)).stepBack := if_pos behind
    have led : work fits .undo session =
        (Work.capture fits (some History.tipDescription) >>= fun _ => get >>= fun captured =>
          Work.restore fits captured.history.stepBack >>= fun led =>
            pure (.moved led)) session := by
      simp only [work, Work.undo, Work.bind_run, Work.get_run, behind, ↓reduceIte]
      cases (Work.capture fits (some History.tipDescription) : Work EditError Unit) session <;> rfl
    rw [led, perform, Session.undo, step]
    exact ends_captured _ (ends_restored _ session _)
  · have step : session.history.undo Chart.same (some session.chart) = session.history.stepBack :=
      if_neg behind
    have led : work fits .undo session =
        (Work.restore fits session.history.stepBack >>= fun led => pure (.moved led)) session := by
      simp only [work, Work.undo, Work.bind_run, Work.get_run, behind]
      rfl
    rw [led, perform, Session.undo, step]
    exact ends_restored _ session session.history

/-- A call ends as it does without the limit, or is broken off by a copy that there is no room for.
-/
theorem work_ends (call : Call) (session : Session) :
    Ends fits session (call.perform session) (call.work fits session) := by
  cases call with
  | mutate change description => exact ends_limited (Work.mutate_limited change description session)
  | merge part description =>
      exact ends_checked (Work.state_run part description session) fun state =>
        Work.mutate_limited (fun _ => state) _ session
  | update updates description => exact update_ends updates description session
  | applyPlan plan description => exact ends_limited (Work.apply_limited plan description session)
  | setSpec spec part description =>
      have full : session.setSpec spec part description =
          ((part.map session.chart.state.merge).getD (.valid session.chart.state)).map fun state =>
            { session.capture (describedAs "Spec edit" description) with
              chart := { state, spec } }.notify := by cases part <;> rfl
      simp only [work, perform, full]
      exact ends_checked (Work.spec_run spec part description session) fun state =>
        Work.place_limited spec state description session
  | setData rows description =>
      refine ends_loading (.inr rfl) (fun fails => ?_) (fun fields read => ?_)
        (Work.data_loads rows description session)
      · simp only [Session.setData, replaceRows, fails]
        rfl
      · simp only [Session.setData, replaceRows, read]
        rfl
  | setDataOnly rows description =>
      have history : session.noted description = session.history ∨
          session.noted description = session.captured description := by
        unfold noted
        split <;> simp
      refine ends_loading history (fun fails => ?_) (fun fields read => ?_)
        (Work.data_only_loads rows description session)
      · simp only [Session.setDataOnly, noted, replaceRows, fails]
        split <;> rfl
      · simp only [Session.setDataOnly, noted, replaceRows, read]
        split <;> rfl
  | reset =>
      let forgetful := { session with lastPlan := none }
      have ends : Limited fits _ forgetful session.reset ()
          ((Work.mutate fits (fun _ => {}) (some "Reset") : Work EditError Unit) forgetful) :=
        Work.mutate_limited (fun _ => {}) (some "Reset") forgetful
      have same : Work.reset fits session =
          (Work.mutate fits (fun _ => {}) (some "Reset") : Work EditError Unit) forgetful := rfl
      rw [← same] at ends
      exact ends_limited (Work.limited_remembered rfl ends)
  | capture description => exact ends_captured description .whole
  | undo => exact undo_ends session
  | redo => exact ends_restored session.history.redo session session.history

/-- With room for all copies a call is the call without the limit. -/
theorem work_with_room (roomy : ∀ copy, fits copy = true) (call : Call) (session : Session) :
    call.work fits session = result (call.perform session) := by
  have ends : Ends fits session _ _ := work_ends call session
  generalize call.work fits session = ending at ends ⊢
  cases ends with
  | whole => rfl
  | brokenOff copy narrow left short => simp [roomy copy] at narrow

theorem result_left (full : Session × Ending) : left (result full) = full.1 := by
  obtain ⟨after, _ | _ | _⟩ := full <;> rfl

/-- What holds of all charts before and after a call holds of all charts that are left of it. -/
theorem work_every {holds : Chart → Prop} {call : Call} {session : Session}
    (live : holds session.chart) (stored : session.history.Every holds)
    (lives : holds (call.perform session).1.chart)
    (stores : (call.perform session).1.history.Every holds) :
    holds (left (call.work fits session)).chart ∧
      (left (call.work fits session)).history.Every holds := by
  have ends : Ends fits session _ _ := work_ends call session
  generalize call.work fits session = ending at ends ⊢
  cases ends with
  | whole =>
      rw [result_left]
      exact ⟨lives, stores⟩
  | brokenOff copy narrow rest short =>
      constructor
      · rcases short.chart with same | same <;> simpa [left, same]
      · rcases short.history with same | same | ⟨description, same⟩ | same
        · rw [left, same]
          exact stored
        · rw [left, same]
          exact History.branched_every stored
        · rw [left, same]
          exact History.capture_every _ _ stored live
        · rw [left, same]
          exact stores

end Call
end Chartwright
