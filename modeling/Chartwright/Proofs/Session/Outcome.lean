import Chartwright.Proofs.Edit.Validity
import Chartwright.Proofs.Session.Lock
import Chartwright.Proofs.Session.Work

/-!
What a command leaves behind, whoever plans it. The planner's answer is complete before the session
is touched, so a command is applied as a whole or leaves the session as it was. Only an empty plan
is remembered without any change.
-/

namespace Chartwright
open Form

namespace AnyPlanner
variable {Failure : Type}

/-- Every failure to plan is reported, and a request to change a specification is answered. -/
structure IsReliable (planner : AnyPlanner Failure) : Prop where
  reports : ∀ command names state fields failure,
    planner.plan command names state fields = .error failure → (planner.report failure).isSome
  answers : ∀ revise, planner.revise = some revise → ∀ command spec fields,
    ∃ edit, revise command spec fields = .ok edit

theorem reliable_revised {planner : AnyPlanner Failure} (reliable : planner.IsReliable)
    (command : String) (spec : Members) (fields : List DataField) :
    ∃ edit, planner.revised command spec fields = .ok edit := by
  unfold revised
  cases able : planner.revise with
  | none => exact ⟨_, rfl⟩
  | some revise => exact reliable.answers revise able command spec fields

end AnyPlanner

namespace Session
variable {Failure : Type}

/-- Plans a command with a planner of any kind and applies it. -/
def runBy (planner : AnyPlanner Failure) (command : String) (allowRegenerate : Bool)
    (session : Session) : Except Failure (Session × Outcome) :=
  match session.task command planner.revise.isSome allowRegenerate with
  | .settled outcome => .ok (session, outcome)
  | .revise command spec =>
    (planner.revised command spec session.fields).map fun edit =>
      session.finishRevision command edit
  | .plan command =>
    match planner.plan command session.fieldNames session.chart.state session.fields with
    | .ok plan => .ok (session.finishPlan command (.ok plan))
    | .error failure =>
      match planner.report failure with
      | some text => .ok (session, unplannedOutcome text)
      | none => .error failure

theorem run_general (session : Session) (command : String) (planner : Planner) (allow : Bool) :
    session.runBy planner.general command allow = session.run command planner allow := by
  unfold runBy run
  have revises : planner.general.revise.isSome = planner.revises := by cases planner <;> rfl
  rw [revises]
  cases session.task command planner.revises allow with
  | settled outcome => rfl
  | revise command spec => cases planner <;> rfl
  | plan command =>
      have planned : planner.general.plan command session.fieldNames session.chart.state
          session.fields = session.planWith planner command := by cases planner <;> rfl
      have reports : planner.general.report = PlanFailure.report := by cases planner <;> rfl
      simp only [planned, reports]
      cases session.planWith planner command with
      | ok plan => rfl
      | error failure => cases failure <;> rfl

def Planned (session : Session) (planner : AnyPlanner Failure) (command : String) (plan : Plan) :
    Prop :=
  planner.plan (trimmed command) session.fieldNames session.chart.state session.fields = .ok plan

/-- The planner succeeded in changing the specification for a command, and this is the result. -/
def Revised (session : Session) (planner : AnyPlanner Failure) (command : String)
    (spec : Members) : Prop :=
  ∃ revise edit, planner.revise = some revise ∧
    revise (trimmed command) session.chart.spec session.fields = .ok edit ∧
    edit.success = true ∧ edit.spec = some spec

/-- How a command ends: with no change at all, with an empty plan that is only remembered, with a
plan that is applied, or with another specification in place. -/
inductive Ends (session : Session) (planner : AnyPlanner Failure) (command : String) :
    Session → Outcome → Prop where
  | idle (outcome : Outcome) (unchanged : outcome.changed = false) :
      Ends session planner command session outcome
  | unmatched (plan : Plan) (planned : session.Planned planner command plan)
      (nothing : plan.operations = []) (outcome : Outcome) (unchanged : outcome.changed = false) :
      Ends session planner command { session with lastPlan := some plan } outcome
  | applied (plan : Plan) (planned : session.Planned planner command plan) (outcome : Outcome)
      (changed : outcome.changed = true) (built : outcome.usedDirectEdit = false) :
      Ends session planner command (session.applyPlan plan (commandText (trimmed command))) outcome
  | revised (custom : session.isCustom = true) (spec : Members)
      (given : session.Revised planner command spec) (outcome : Outcome)
      (changed : outcome.changed = true) (direct : outcome.usedDirectEdit = true) :
      Ends session planner command
        (session.finishRevision (trimmed command) { success := true, spec := some spec }).1 outcome

theorem task_ends (session : Session) (command : String) (revises allow : Bool) :
    (∃ outcome, session.task command revises allow = .settled outcome ∧
        outcome.changed = false) ∨
      (session.isCustom = true ∧ revises = true ∧
        session.task command revises allow = .revise (trimmed command) session.chart.spec) ∨
      session.task command revises allow = .plan (trimmed command) := by
  unfold task
  rw [show String.ofList (Text.trim command.toList) = trimmed command from rfl]
  by_cases blank : (trimmed command).isEmpty = true
  · exact .inl ⟨emptyOutcome, by simp [blank], rfl⟩
  · by_cases able : session.isCustom = true ∧ revises = true
    · exact .inr (.inl ⟨able.1, able.2, by simp [blank, able]⟩)
    · by_cases refused : (session.isCustom && !allow) = true
      · exact .inl ⟨refusedOutcome, by simp [blank, able, refused], rfl⟩
      · exact .inr (.inr (by simp [blank, able, refused]))

-- Plans without operations are remembered, all others are applied.
theorem finish_plan_planned {session : Session} {planner : AnyPlanner Failure} {command : String}
    {plan : Plan} (planned : session.Planned planner command plan) :
    session.Ends planner command (session.finishPlan (trimmed command) (.ok plan)).1
      (session.finishPlan (trimmed command) (.ok plan)).2 := by
  unfold finishPlan
  by_cases nothing : plan.operations.isEmpty = true
  · simp only [nothing, ↓reduceIte]
    exact .unmatched plan planned (List.isEmpty_iff.mp nothing) _ rfl
  · simp only [nothing, Bool.false_eq_true, ↓reduceIte]
    exact .applied plan planned _ rfl rfl

theorem finish_revision_answered {session : Session} {planner : AnyPlanner Failure}
    {command : String} {edit : SpecEdit} (custom : session.isCustom = true)
    (able : planner.revise.isSome)
    (answered : planner.revised (trimmed command) session.chart.spec session.fields = .ok edit) :
    session.Ends planner command (session.finishRevision (trimmed command) edit).1
      (session.finishRevision (trimmed command) edit).2 := by
  obtain ⟨revise, revises⟩ := Option.isSome_iff_exists.mp able
  simp only [AnyPlanner.revised, revises] at answered
  cases success : edit.success with
  | false =>
      simp only [finishRevision, success]
      exact .idle _ rfl
  | true =>
      cases result : edit.spec with
      | none =>
          simp only [finishRevision, success, result]
          exact .idle _ rfl
      | some spec =>
          have given : session.Revised planner command spec :=
            ⟨revise, edit, revises, answered, success, result⟩
          simp only [finishRevision, success, result]
          exact .revised custom spec given _ rfl rfl

-- The task is known before the planner is asked, and each task has one way to be finished.
theorem run_by_ends {session after : Session} {planner : AnyPlanner Failure} {command : String}
    {allow : Bool} {outcome : Outcome}
    (returned : session.runBy planner command allow = .ok (after, outcome)) :
    session.Ends planner command after outcome := by
  unfold runBy at returned
  rcases task_ends session command planner.revise.isSome allow with
    ⟨settled, task, unchanged⟩ | ⟨custom, able, task⟩ | task
  · rw [task] at returned
    cases returned
    exact .idle _ unchanged
  · simp only [task] at returned
    cases answered : planner.revised (trimmed command) session.chart.spec session.fields with
    | error failure => simp [answered, Except.map] at returned
    | ok edit =>
        simp only [answered, Except.map, Except.ok.injEq] at returned
        have ends := finish_revision_answered custom able answered
        rwa [returned] at ends
  · simp only [task] at returned
    cases planned : planner.plan (trimmed command) session.fieldNames session.chart.state
        session.fields with
    | ok plan =>
        simp only [planned, Except.ok.injEq] at returned
        have ends := finish_plan_planned planned
        rwa [returned] at ends
    | error failure =>
        cases reported : planner.report failure with
        | none => simp [planned, reported] at returned
        | some text =>
            simp only [planned, reported, Except.ok.injEq, Prod.mk.injEq] at returned
            rw [← returned.1]
            exact .idle _ (by rw [← returned.2]; rfl)

theorem run_ends {session after : Session} {planner : Planner} {command : String} {allow : Bool}
    {outcome : Outcome} (returned : session.run command planner allow = .ok (after, outcome)) :
    session.Ends planner.general command after outcome :=
  run_by_ends ((run_general session command planner allow).trans returned)

theorem reliable_returns {planner : AnyPlanner Failure} (reliable : planner.IsReliable)
    (session : Session) (command : String) (allow : Bool) :
    ∃ after outcome, session.runBy planner command allow = .ok (after, outcome) := by
  unfold runBy
  cases session.task command planner.revise.isSome allow with
  | settled outcome => exact ⟨_, _, rfl⟩
  | revise command spec =>
      obtain ⟨edit, answered⟩ := AnyPlanner.reliable_revised reliable command spec session.fields
      exact ⟨_, _, by simp only [answered, Except.map]; rfl⟩
  | plan command =>
      cases planned : planner.plan command session.fieldNames session.chart.state
          session.fields with
      | ok plan => exact ⟨_, _, by simp only [planned]; rfl⟩
      | error failure =>
          obtain ⟨text, reported⟩ :=
            Option.isSome_iff_exists.mp (reliable.reports _ _ _ _ failure planned)
          exact ⟨_, _, by simp only [planned, reported]; rfl⟩

theorem command_described (usual command : String) :
    describedAs usual (commandText command) = commandText command := by
  have spoken : ("AI: " ++ command).isEmpty = false := by
    simp [String.isEmpty_eq_false_iff]
  simp [describedAs, commandText, filled?, Option.filter, spoken]

/-! What a command does if there is not always room for its copies. -/

/-- The copies of a specification that was revised. -/
def revisionCopies (edit : SpecEdit) (session : Session) : List Copy :=
  match edit.success, edit.spec with
  | true, some spec => session.placeCopies { session.chart with spec }
  | _, _ => []

/-- The copies that a command makes, in order. -/
def commandCopies (planner : AnyPlanner Failure) (command : String) (allowRegenerate : Bool)
    (session : Session) : List Copy :=
  match session.task command planner.revise.isSome allowRegenerate with
  | .settled _ => []
  | .revise command spec =>
    match planner.revised command spec session.fields with
    | .ok edit => .sent spec :: session.revisionCopies edit
    | .error _ => [.sent spec]
  | .plan command =>
    match planner.plan command session.fieldNames session.chart.state session.fields with
    | .ok plan => if plan.operations.isEmpty then [] else Work.planCopies plan session
    | .error _ => []

theorem finish_plan_limited {fits : Copy → Bool} (command : String) (plan : Plan)
    (session : Session) :
    Limited fits (if plan.operations.isEmpty then [] else Work.planCopies plan session) session
      (session.finishPlan command (.ok plan)).1 (session.finishPlan command (.ok plan)).2
      ((Work.finishPlan fits command plan : Work Failure Outcome) session) := by
  unfold finishPlan Work.finishPlan
  by_cases nothing : plan.operations.isEmpty = true
  · simp only [nothing, ↓reduceIte]
    exact .returned (List.forall_mem_nil _)
  · simp only [nothing, Bool.false_eq_true, ↓reduceIte]
    exact Work.limited_then (Work.apply_limited plan _ session)

theorem finish_revision_limited {fits : Copy → Bool} (command : String) (edit : SpecEdit)
    (session : Session) :
    Limited fits (session.revisionCopies edit) session
      (session.finishRevision command edit).1 (session.finishRevision command edit).2
      ((Work.finishRevision fits command edit : Work Failure Outcome) session) := by
  unfold finishRevision Work.finishRevision revisionCopies
  cases edit.success with
  | false => exact .returned (List.forall_mem_nil _)
  | true =>
      cases edit.spec with
      | none => exact .returned (List.forall_mem_nil _)
      | some spec =>
          let remembered := { session with lastPlan := some (revisionPlan command) }
          let chart := { session.chart with spec }
          let after := { remembered.capture (commandText command) with chart }.notify
          let place : Work Failure Unit :=
            Work.place fits spec chart.state (commandText command)
          have placed : Limited fits (remembered.placeCopies chart) remembered
              { remembered.capture (describedAs "Spec edit" (commandText command)) with
                chart }.notify () (place remembered) := Work.place_limited ..
          rw [command_described] at placed
          have ends : Limited fits (session.placeCopies chart) session after ()
              (place remembered) := Work.limited_remembered rfl placed
          change Limited fits _ session after _
            ((place >>= fun _ => pure (revisedOutcome command)) remembered)
          exact Work.limited_then ends

theorem run_limited {fits : Copy → Bool} {session after : Session} {planner : AnyPlanner Failure}
    {command : String} {allow : Bool} {outcome : Outcome}
    (returned : session.runBy planner command allow = .ok (after, outcome)) :
    Limited fits (session.commandCopies planner command allow) session after outcome
      (Work.run fits planner command allow session) := by
  simp only [Work.run, Work.bind_run, Work.get_run]
  unfold runBy at returned
  unfold commandCopies
  cases task : session.task command planner.revise.isSome allow with
  | settled settled =>
      simp only [task] at returned
      cases returned
      exact .returned (List.forall_mem_nil _)
  -- The planner is asked only when its copy of the specification is made.
  | revise command spec =>
      simp only [task] at returned ⊢
      cases answered : planner.revised command spec session.fields with
      | error failure => simp [answered, Except.map] at returned
      | ok edit =>
          simp only [answered, Except.map, Except.ok.injEq] at returned ⊢
          have finished : Limited fits (session.revisionCopies edit) session _ _
              ((Work.finishRevision fits command edit : Work Failure Outcome) session) :=
            finish_revision_limited command edit session
          rw [returned] at finished
          exact Work.make_limited (Work.off_at_start after) finished
  | plan command =>
      simp only [task] at returned ⊢
      cases planned : planner.plan command session.fieldNames session.chart.state
          session.fields with
      | ok plan =>
          simp only [planned, Except.ok.injEq] at returned ⊢
          have finished : Limited fits _ session _ _
              ((Work.finishPlan fits command plan : Work Failure Outcome) session) :=
            finish_plan_limited command plan session
          rwa [returned] at finished
      | error failure =>
          simp only [planned] at returned ⊢
          cases reported : planner.report failure with
          | none => simp [reported] at returned
          | some text =>
              simp only [reported, Except.ok.injEq, Prod.mk.injEq] at returned ⊢
              obtain ⟨rfl, rfl⟩ := returned
              exact .returned (List.forall_mem_nil _)

/-- A command is all or nothing. With a planner that is reliable it has an outcome if there is room
for the copies that it makes. If that tells of no change, the session is as it was, but for an empty
plan that is remembered. If it tells of a change, the rows and fields are as they were, the history
took one snapshot of the chart there was, and the chart is either the planner's specification beside
the same builder state, which only happens to custom specifications, or it is compiled from the
state that the plan leads to. A copy that there is no room for breaks the command off; the chart is
the old one then, unless the new one only had to be shown. -/
theorem run_all_or_nothing (fits : Copy → Bool) (planner : AnyPlanner Failure)
    (reliable : planner.IsReliable) (session : Session) (command : String) (allow : Bool) :
    ∃ after outcome,
      Limited fits (session.commandCopies planner command allow) session after outcome
        (Work.run fits planner command allow session) ∧
      (outcome.changed = false → after = session ∨
        ∃ plan, session.Planned planner command plan ∧ plan.operations = [] ∧
          after = { session with lastPlan := some plan }) ∧
      (outcome.changed = true →
        after.rows = session.rows ∧ after.fields = session.fields ∧
        after.history = session.captured (commandText (trimmed command)) ∧
        ((outcome.usedDirectEdit = true ∧ session.isCustom = true ∧
            after.chart.state = session.chart.state ∧
            session.Revised planner command after.chart.spec) ∨
          (outcome.usedDirectEdit = false ∧ ∃ plan, session.Planned planner command plan ∧
            after.chart = session.compiled
              (Operation.applyAll session.fields session.chart.state plan.operations)))) := by
  obtain ⟨after, outcome, returned⟩ := reliable_returns reliable session command allow
  refine ⟨after, outcome, run_limited returned, ?_⟩
  cases run_by_ends returned with
  | idle outcome unchanged => exact ⟨fun _ => .inl rfl, by simp [unchanged]⟩
  | unmatched plan planned nothing outcome unchanged =>
      exact ⟨fun _ => .inr ⟨plan, planned, nothing, rfl⟩, by simp [unchanged]⟩
  | applied plan planned outcome changed built =>
      refine ⟨by simp [changed], fun _ => ⟨rfl, rfl, ?_, .inr ⟨built, plan, planned, rfl⟩⟩⟩
      simp only [applyPlan, command_described]
      rfl
  | revised custom spec given outcome changed direct =>
      exact ⟨by simp [changed], fun _ => ⟨rfl, rfl, rfl, .inl ⟨direct, custom, rfl, given⟩⟩⟩

/-- Draws lines for every command, and entitles the specifications that it is given. -/
def lineDrawer : AnyPlanner PlannerError where
  plan command _ _ _ := .ok { intent := command, operations := [.setMark .line none] }
  revise := some fun _ spec _ =>
    .ok { success := true, spec := some (spec.set "title" (.text "Lines")) }
  report cause := some cause.message

theorem line_drawer_reliable : lineDrawer.IsReliable where
  reports _ _ _ _ _ _ := rfl
  answers := by
    rintro revise able command spec fields
    cases able
    exact ⟨_, rfl⟩

theorem lines_drawn :
    lineDrawer.IsReliable ∧
      ∃ after outcome,
        Work.run Copy.isMade lineDrawer " as lines " false blank = .ok outcome after ∧
        outcome.changed = true ∧ after.chart.state.mark.kind = .line := by
  obtain ⟨after, outcome, limited, _, result⟩ :=
    run_all_or_nothing Copy.isMade lineDrawer line_drawer_reliable blank " as lines " false
  have drawn : (match Work.run Copy.isMade lineDrawer " as lines " false blank with
      | .ok outcome _ => outcome.changed
      | .error _ _ => false) = true := by decide +kernel
  generalize Work.run Copy.isMade lineDrawer " as lines " false blank = ending at limited drawn ⊢
  cases limited with
  | brokenOff copy made left off => cases drawn
  | returned roomy =>
      have changed : outcome.changed = true := drawn
      have built : blank.isCustom = false := by decide +kernel
      refine ⟨line_drawer_reliable, after, outcome, rfl, changed, ?_⟩
      rcases (result changed).2.2.2 with ⟨_, custom, _⟩ | ⟨_, plan, planned, chart⟩
      · rw [built] at custom
        cases custom
      · cases planned
        rw [chart]
        rfl

/-- A chart whose colors cannot be copied. -/
def deeplyColored : Session :=
  { blank with chart := blank.compiled Operation.deeplyColored }

theorem deep_chart_breaks_off :
    ¬∀ (planner : AnyPlanner PlannerError) (session : Session) (command : String) (allow : Bool),
      planner.IsReliable → ∃ after outcome,
        Work.run Copy.isMade planner command allow session = .ok outcome after := by
  intro always
  obtain ⟨after, outcome, returned⟩ :=
    always lineDrawer deeplyColored "as lines" false line_drawer_reliable
  have breaks : (match Work.run Copy.isMade lineDrawer "as lines" false deeplyColored with
      | .ok _ _ => true
      | .error _ _ => false) = false := by decide +kernel
  rw [returned] at breaks
  cases breaks

end Session
end Chartwright
