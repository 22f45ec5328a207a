import Chartwright.Proofs.Session.Run
import Chartwright.Session.Work

/-!
How the calls of a session end when there is not always room for the copies that they make. A call
for whose copies there is room ends as the call without that limit. One that breaks off has told no
listener; it leaves the chart that there was, or the one that it put in place when all that is left
is to show it.
-/

namespace Chartwright
open Form

namespace Work
variable {Cause α β : Type} {fits : Copy → Bool}

/-! Single steps. -/

@[simp] theorem pure_run (value : α) (session : Session) :
    (pure value : Work Cause α) session = .ok value session := rfl

@[simp] theorem bind_run (work : Work Cause α) (next : α → Work Cause β) (session : Session) :
    (work >>= next) session =
      match work session with
      | .ok value after => next value after
      | .error halt left => .error halt left := by
  change EStateM.bind work next session = _
  unfold EStateM.bind
  cases work session <;> rfl

@[simp] theorem get_run (session : Session) :
    (get : Work Cause Session) session = .ok session session := rfl

@[simp] theorem set_run (next session : Session) :
    (set next : Work Cause PUnit) session = .ok ⟨⟩ next := rfl

@[simp] theorem modify_run (change : Session → Session) (session : Session) :
    (modify change : Work Cause PUnit) session = .ok ⟨⟩ (change session) := rfl

@[simp] theorem raise_run (cause : Cause) (session : Session) :
    (raise cause : Work Cause α) session = .error (.raised cause) session := rfl

theorem checked_run (given : Checked α) (session : Session) :
    (checked given : Work EditError α) session =
      match given with
      | .valid value => .ok value session
      | .faulty faults => .error (.raised (.faulty faults)) session := by
  cases given <;> rfl

theorem make_run (copy : Copy) (session : Session) :
    (make fits copy : Work Cause Unit) session =
      if fits copy then .ok () session else .error (.outOfStack copy) session := by
  unfold make
  cases fits copy <;> rfl

theorem make_if_run (needed : Bool) (copy : Copy) (session : Session) :
    (makeIf fits needed copy : Work Cause Unit) session =
      if !needed || fits copy then .ok () session else .error (.outOfStack copy) session := by
  cases needed with
  | false => rfl
  | true => exact make_run copy session

end Work

namespace Session
variable {Cause α : Type}

/-! The copies that an edit makes. -/

def snapshotCopies (session : Session) : List Copy :=
  if session.history.holds Chart.same session.chart then [.handedOut (Work.held session)]
  else [.taken session.chart, .handedOut (Work.held session)]

def noticeCopies (chart : Chart) (session : Session) : List Copy :=
  if session.listeners.any (·.isActive) then [.shown chart] else []

/-- The copies for a change of the builder state that leads to a chart. -/
def changeCopies (chart : Chart) (session : Session) : List Copy :=
  .changed session.chart.state :: (session.snapshotCopies ++ session.noticeCopies chart)

/-- The copies for a specification that is given. -/
def placeCopies (chart : Chart) (session : Session) : List Copy :=
  session.snapshotCopies ++ .placed chart.spec :: session.noticeCopies chart

/-- What an edit leaves that would lead from one session to another and that a copy breaks off. The
chart is the old one, unless the new one only had to be shown. -/
structure BrokenOff (fits : Copy → Bool) (before after : Session) (copy : Copy) (left : Session) :
    Prop where
  narrow : fits copy = false
  rows : left.rows = before.rows
  fields : left.fields = before.fields
  notices : left.notices = before.notices
  plan : left.lastPlan = before.lastPlan ∨ left.lastPlan = after.lastPlan
  chart : left.chart = before.chart ∨ copy = .shown after.chart ∧ left.chart = after.chart
  history : left.history = before.history ∨ left.history = before.history.branched ∨
    ∃ description, left.history = before.captured description

/-- How an edit ends that leads from one session to another if there is room for its copies. -/
inductive Limited (fits : Copy → Bool) (copies : List Copy) (before after : Session) (value : α) :
    EStateM.Result (Halt Cause) Session α → Prop where
  | returned (roomy : ∀ copy ∈ copies, fits copy = true) :
      Limited fits copies before after value (.ok value after)
  | brokenOff (copy : Copy) (made : copy ∈ copies) (left : Session)
      (off : BrokenOff fits before after copy left) :
      Limited fits copies before after value (.error (.outOfStack copy) left)

theorem limited_after {fits : Copy → Bool} {first later : List Copy} {before after : Session}
    {value : α} {result : EStateM.Result (Halt Cause) Session α}
    (room : ∀ copy ∈ first, fits copy = true)
    (ends : Limited fits later before after value result) :
    Limited fits (first ++ later) before after value result := by
  cases ends with
  | returned roomy => exact .returned (List.forall_mem_append.mpr ⟨room, roomy⟩)
  | brokenOff other made left off =>
      exact .brokenOff other (List.mem_append_right first made) left off

end Session

namespace Work
open Session
variable {Cause α : Type} {fits : Copy → Bool}

theorem notify_run (session : Session) :
    (notify fits : Work Cause Unit) session =
      if !session.listeners.any (·.isActive) || fits (.shown session.chart) then
        .ok () session.notify
      else .error (.outOfStack (.shown session.chart)) session := by
  simp only [notify, bind_run, get_run, make_if_run]
  cases !session.listeners.any (·.isActive) || fits (.shown session.chart) <;> rfl

theorem off_at_start {session : Session} (after : Session) {copy : Copy}
    (narrow : fits copy = false) : BrokenOff fits session after copy session where
  narrow := narrow
  rows := rfl
  fields := rfl
  notices := rfl
  plan := .inl rfl
  chart := .inl rfl
  history := .inl rfl

theorem off_after_capture {session : Session} (after : Session) {copy : Copy}
    (description : Option String) (narrow : fits copy = false) :
    BrokenOff fits session after copy (session.capture description) :=
  { off_at_start after narrow with history := .inr (.inr ⟨description, rfl⟩) }

theorem limited_then {copies : List Copy} {before middle after : Session} {value : α}
    {work : Work Cause Unit} (ends : Limited fits copies before after () (work middle)) :
    Limited fits copies before after value ((work >>= fun _ => pure value) middle) := by
  rw [bind_run]
  generalize work middle = result at ends ⊢
  cases ends with
  | returned roomy => exact .returned roomy
  | brokenOff copy made left off => exact .brokenOff copy made left off

/-! Edits that put a chart in place. -/

theorem make_limited {rest : Work Cause α} {copies : List Copy} {before middle after : Session}
    {value : α} {copy : Copy} (off : fits copy = false → BrokenOff fits before after copy middle)
    (ends : Limited fits copies before after value (rest middle)) :
    Limited fits (copy :: copies) before after value
      ((make fits copy >>= fun _ => rest) middle) := by
  rw [bind_run, make_run]
  cases room : fits copy with
  | false => exact .brokenOff copy List.mem_cons_self middle (off room)
  | true => exact limited_after (List.forall_mem_singleton.mpr room) ends

/-- What follows on a snapshot. The redo branch is gone in any case, and the snapshot is there
unless it is itself the copy that there is no room for. -/
theorem capture_then {rest : Work Cause α} {session : Session}
    {ends : EStateM.Result (Halt Cause) Session α → Prop} (description : Option String)
    (cut : ∀ copy ∈ session.snapshotCopies, fits copy = false → ∀ history,
      history = session.history.branched ∨ history = session.captured description →
        ends (.error (.outOfStack copy) { session with history }))
    (snapped : (∀ copy ∈ session.snapshotCopies, fits copy = true) →
      ends (rest (session.capture description))) :
    ends ((capture fits description >>= fun _ => rest) session) := by
  simp only [capture, bind_run, get_run, set_run, make_if_run, make_run, Bool.not_not]
  simp only [snapshotCopies] at cut snapped
  -- A chart that the history holds already is not copied again, but what it holds is handed out.
  cases known : session.history.holds Chart.same session.chart || fits (.taken session.chart) with
  | false =>
      obtain ⟨fresh, narrow⟩ := Bool.or_eq_false_iff.mp known
      exact cut (.taken session.chart) (by simp [fresh]) narrow _ (.inl rfl)
  | true =>
      cases room : fits (.handedOut (held session)) with
      | false =>
          refine cut (.handedOut (held session)) ?_ room _ (.inr rfl)
          split <;> simp
      | true =>
          refine snapped fun copy made => ?_
          split at made
          case isTrue => rw [List.mem_singleton.mp made, room]
          case isFalse fresh =>
            have taken : fits (.taken session.chart) = true := by simpa [fresh] using known
            rcases List.mem_cons.mp made with rfl | last
            · exact taken
            · rw [List.mem_singleton.mp last, room]

theorem capture_limited {rest : Work Cause α} {copies : List Copy} {session after : Session}
    {value : α} (description : Option String)
    (ends : Limited fits copies session after value (rest (session.capture description))) :
    Limited fits (session.snapshotCopies ++ copies) session after value
      ((capture fits description >>= fun _ => rest) session) := by
  refine capture_then description (fun copy made narrow history cut => ?_)
    fun room => limited_after room ends
  have early : BrokenOff fits session after copy session := off_at_start after narrow
  refine .brokenOff copy (List.mem_append_left copies made) _ { early with history := .inr ?_ }
  exact cut.imp id fun taken => ⟨description, taken⟩

theorem put_limited (chart : Chart) (description : Option String) (session : Session) :
    Limited fits (session.noticeCopies chart) session
      { session.capture description with chart }.notify ()
      ((put fits chart : Work Cause Unit) (session.capture description)) := by
  simp only [put, bind_run, modify_run, notify_run, noticeCopies]
  rw [show (session.capture description).listeners = session.listeners from rfl]
  cases session.listeners.any (·.isActive) with
  | false => exact .returned (List.forall_mem_nil _)
  | true =>
      cases room : fits (.shown chart) with
      | true => exact .returned (List.forall_mem_singleton.mpr room)
      | false =>
          have early : BrokenOff fits session { session.capture description with chart }.notify
              (.shown chart) (session.capture description) := off_after_capture _ description room
          exact .brokenOff _ List.mem_cons_self _ { early with chart := .inr ⟨rfl, rfl⟩ }

theorem mutate_limited (change : BuilderState → BuilderState) (description : Option String)
    (session : Session) :
    Limited fits (session.changeCopies (session.compiled (change session.chart.state))) session
      (session.replaceState (change session.chart.state) description) ()
      ((mutate fits change description : Work Cause Unit) session) :=
  make_limited (off_at_start _) (capture_limited description (put_limited _ description session))

theorem place_limited (spec : Members) (state : BuilderState) (description : Option String)
    (session : Session) :
    Limited fits (session.placeCopies { state, spec }) session
      { session.capture (describedAs "Spec edit" description) with chart := { state, spec } }.notify
      () ((place fits spec state description : Work Cause Unit) session) :=
  capture_limited _ (make_limited (off_after_capture _ _) (put_limited _ _ session))

theorem state_run (part : PartialState) (description : Option String) (session : Session) :
    setBuilderState fits part description session =
      match session.chart.state.merge part with
      | .valid state =>
        mutate fits (fun _ => state) (describedAs "Builder change" description) session
      | .faulty faults => .error (.raised (.faulty faults)) session := by
  simp only [setBuilderState, bind_run, get_run, checked_run]
  cases session.chart.state.merge part <;> rfl

theorem update_run (updates : Json) (description : Option String) (session : Session) :
    update fits updates description session =
      match Updates.entries updates with
      | .error cause => .error (.raised (.updates cause)) session
      | .ok entries =>
        match (PartialState.read (.object entries)).andThen session.chart.state.merge with
        | .valid state =>
          mutate fits (fun _ => state) (describedAs "Builder change" description) session
        | .faulty faults => .error (.raised (.faulty faults)) session := by
  unfold update
  cases Updates.entries updates with
  | error cause => rfl
  | ok entries =>
      simp only [bind_run, checked_run]
      cases PartialState.read (.object entries) with
      | faulty faults => rfl
      | valid part => exact state_run part description session

theorem update_read_run {updates : Json} {entries : Members} (description : Option String)
    (session : Session) (named : Updates.entries updates = .ok entries) :
    update fits updates description session =
      match (PartialState.read (.object entries)).andThen session.chart.state.merge with
      | .valid state =>
        mutate fits (fun _ => state) (describedAs "Builder change" description) session
      | .faulty faults => .error (.raised (.faulty faults)) session := by
  rw [update_run, named]

theorem spec_run (spec : Members) (part : Option PartialState) (description : Option String)
    (session : Session) :
    setSpec fits spec part description session =
      match (part.map session.chart.state.merge).getD (.valid session.chart.state) with
      | .valid state => place fits spec state description session
      | .faulty faults => .error (.raised (.faulty faults)) session := by
  simp only [setSpec, bind_run, get_run, checked_run]
  cases (part.map session.chart.state.merge).getD (.valid session.chart.state) <;> rfl

/-- Remembering a plan first makes no difference where the edit leaves that plan. -/
theorem limited_remembered {copies : List Copy} {session after : Session} {plan : Option Plan}
    {value : α} {result : EStateM.Result (Halt Cause) Session α} (same : after.lastPlan = plan)
    (ends : Limited fits copies { session with lastPlan := plan } after value result) :
    Limited fits copies session after value result := by
  cases ends with
  | returned roomy => exact .returned roomy
  | brokenOff copy made left off =>
      have remembered : left.lastPlan = after.lastPlan := off.plan.elim (·.trans same.symm) id
      exact .brokenOff copy made left
        { narrow := off.narrow
          rows := off.rows
          fields := off.fields
          notices := off.notices
          plan := .inr remembered
          chart := off.chart
          history := off.history }

/-- The copies that applying a plan makes. -/
def planCopies (plan : Plan) (session : Session) : List Copy :=
  .planned session.chart.state :: session.changeCopies
    (session.compiled (Operation.applyAll session.fields session.chart.state plan.operations))

theorem apply_limited (plan : Plan) (description : Option String) (session : Session) :
    Limited fits (planCopies plan session) session (session.applyPlan plan description) ()
      ((applyPlan fits plan description : Work Cause Unit) session) := by
  simp only [applyPlan, bind_run, get_run, Operation.applyPlan]
  by_cases room : fits (.planned session.chart.state) = true
  · refine limited_after (List.forall_mem_singleton.mpr room) ?_
    simp only [room, ↓reduceIte]
    -- The plan is remembered first, and no step after that forgets it.
    let state := Operation.applyAll session.fields session.chart.state plan.operations
    exact limited_remembered rfl
      (mutate_limited (fun _ => state) _ { session with lastPlan := some plan })
  · simp only [room]
    exact .brokenOff _ List.mem_cons_self session (off_at_start _ (Bool.of_not_eq_true room))

end Work
end Chartwright
