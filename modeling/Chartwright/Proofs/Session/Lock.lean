import Chartwright.Proofs.Session.Run
import Chartwright.Proofs.Spec.Custom

/-!
When editing at the level of the builder locks the builder. Controls and typed commands add
transforms without a limit, while a specification with more than a few transform steps counts as
custom, and a custom specification disables both. The steps of the builder state alone decide.
-/

namespace Chartwright
open Form

namespace Session

/-- The sessions that a new one comes to by controls and by commands that are planned by phrases and
may not regenerate the chart, by loading rows, resetting, undo and redo. A control or command that
raises leaves the session it was given. -/
inductive BuilderReached (rows : List Row) (limit : Int) : Session → Prop where
  | start (first : Session) (started : Session.start rows limit = .ok first) :
      BuilderReached rows limit first
  | control (session : Session) (before : BuilderReached rows limit session) (updates : Json)
      (description : Option String) (next : Session)
      (returned : session.updateBuilder updates description = .ok next) :
      BuilderReached rows limit next
  | command (session : Session) (before : BuilderReached rows limit session) (command : String)
      (next : Session) (outcome : Outcome)
      (returned : session.run command .phrases false = .ok (next, outcome)) :
      BuilderReached rows limit next
  | setData (session : Session) (before : BuilderReached rows limit session) (others : List Row)
      (description : String) :
      BuilderReached rows limit ((Call.setData others description).perform session).1
  | reset (session : Session) (before : BuilderReached rows limit session) :
      BuilderReached rows limit (Call.reset.perform session).1
  | undo (session : Session) (before : BuilderReached rows limit session) :
      BuilderReached rows limit (Call.undo.perform session).1
  | redo (session : Session) (before : BuilderReached rows limit session) :
      BuilderReached rows limit (Call.redo.perform session).1

def IsCompiled (chart : Chart) : Prop := ∃ fields, chart.spec = Spec.compile chart.state fields

/-- The chart and every snapshot were compiled. -/
structure AllCompiled (session : Session) : Prop where
  live : IsCompiled session.chart
  stored : session.history.Every IsCompiled

theorem all_compiled_build {session : Session} {call : Call} (all : session.AllCompiled)
    (builds : call.Builds) : (call.perform session).1.AllCompiled := by
  constructor
  · have ends := Call.build_ends session call builds
    generalize (call.perform session).2 = ending at ends
    cases ends with
    | returned current => exact ⟨_, current⟩
    | raised cause chart fields =>
        rw [chart]
        exact all.live
  · have still : call ≠ .undo ∧ call ≠ .redo := by
      constructor <;> rintro rfl <;> exact builds
    rcases Call.perform_history session call still with same | ⟨_, captured⟩
    · rw [same]
      exact all.stored
    · rw [captured]
      exact History.capture_every _ _ all.stored all.live

theorem all_compiled_walk {session : Session} {step : History Chart × Option Chart}
    (all : session.AllCompiled) (led : History.Led IsCompiled step) :
    (session.restored step).1.AllCompiled :=
  have ⟨live, stored⟩ := restored_every all.live led
  ⟨live, stored⟩

theorem control_returns {session next : Session} {updates : Json} {description : Option String}
    (returned : session.updateBuilder updates description = .ok next) :
    session.isCustom = false ∧ next = ((Call.update updates description).perform session).1 := by
  unfold updateBuilder at returned
  cases custom : session.isCustom with
  | true => simp [custom] at returned
  | false =>
      simp only [custom, Bool.false_eq_true, ↓reduceIte] at returned
      simp [Call.perform, returned, updated]

/-- What is left of a command without the blanks around it. -/
def trimmed (command : String) : String := String.ofList (Text.trim command.toList)

theorem run_phrases (session : Session) (command : String) (allow : Bool) :
    session.run command .phrases allow =
      if (trimmed command).isEmpty then .ok (session, emptyOutcome)
      else if session.isCustom && !allow then .ok (session, refusedOutcome)
      else
        match Command.plan (trimmed command) session.fieldNames with
        | .ok plan => .ok (session.finishPlan (trimmed command) (.ok plan))
        | .error cause => .error (.number cause) := by
  unfold run task trimmed
  simp only [Planner.revises, Bool.and_false, Bool.false_eq_true, ↓reduceIte]
  by_cases blank : (String.ofList (Text.trim command.toList)).isEmpty = true
  · simp only [blank, ↓reduceIte]
  · simp only [blank, Bool.false_eq_true, ↓reduceIte]
    by_cases refused : (session.isCustom && !allow) = true
    · simp only [refused, ↓reduceIte]
    · simp only [refused, Bool.false_eq_true, ↓reduceIte, planWith]
      cases planned : Command.plan (String.ofList (Text.trim command.toList)) session.fieldNames <;>
        simp only [Except.mapError]

theorem finish_plan_ends (session : Session) (command : String) (plan : Plan) :
    (session.finishPlan command (.ok plan)).2.error = none ∧
      ((session.finishPlan command (.ok plan)).1 = { session with lastPlan := some plan } ∨
        (session.finishPlan command (.ok plan)).1 =
          ((Call.applyPlan plan (commandText command)).perform session).1) := by
  unfold finishPlan
  by_cases nothing : plan.operations.isEmpty = true
  · simp only [nothing, ↓reduceIte]
    exact ⟨rfl, .inl trivial⟩
  · simp only [nothing, Bool.false_eq_true, ↓reduceIte]
    exact ⟨rfl, .inr rfl⟩

theorem all_compiled_command {session next : Session} {command : String} {allow : Bool}
    {outcome : Outcome} (all : session.AllCompiled)
    (returned : session.run command .phrases allow = .ok (next, outcome)) : next.AllCompiled := by
  rw [run_phrases] at returned
  split at returned
  · cases returned
    exact all
  · split at returned
    · cases returned
      exact all
    · cases planned : Command.plan (trimmed command) session.fieldNames with
      | error cause => simp [planned] at returned
      | ok plan =>
          simp only [planned, Except.ok.injEq] at returned
          rw [show next = (session.finishPlan (trimmed command) (.ok plan)).1 by rw [returned]]
          rcases (finish_plan_ends session (trimmed command) plan).2 with kept | applied
          · rw [kept]
            exact ⟨all.live, all.stored⟩
          · rw [applied]
            exact all_compiled_build all trivial

theorem builder_all_compiled {rows : List Row} {limit : Int} {session : Session}
    (reached : BuilderReached rows limit session) : session.AllCompiled := by
  induction reached with
  | start first started =>
      obtain ⟨_, history⟩ := start_empty started
      constructor
      · exact ⟨_, start_current started⟩
      · rw [history]
        exact History.empty_every _ _
  | control session before updates description next returned ih =>
      rw [(control_returns returned).2]
      exact all_compiled_build ih trivial
  | command session before command next outcome returned ih =>
      exact all_compiled_command ih returned
  | setData session before others description ih => exact all_compiled_build ih trivial
  | reset session before ih => exact all_compiled_build ih trivial
  | undo session before ih =>
      exact all_compiled_walk ih (History.undo_every _ ih.stored ih.live)
  | redo session before ih => exact all_compiled_walk ih (History.redo_every ih.stored)

-- An update that is let through may fail as well, but never for this reason.
theorem control_locked_iff (session : Session) (updates : Json) (description : Option String) :
    session.updateBuilder updates description = .error .customSpec ↔ session.isCustom = true := by
  unfold updateBuilder
  cases custom : session.isCustom with
  | true => simp
  | false =>
      simp only [Bool.false_eq_true, ↓reduceIte, iff_false]
      unfold update
      cases Updates.entries updates with
      | error cause => simp
      | ok entries =>
          cases read : (PartialState.read (.object entries)).andThen fun part =>
            session.setBuilderState part description <;> simp [read]

theorem command_refused_iff (session : Session) (command : String)
    (spoken : (trimmed command).isEmpty = false) :
    (∃ next outcome, session.run command .phrases false = .ok (next, outcome) ∧
      outcome.error = some "custom_spec") ↔ session.isCustom = true := by
  rw [run_phrases]
  simp only [spoken, Bool.false_eq_true, ↓reduceIte, Bool.not_false, Bool.and_true]
  cases custom : session.isCustom with
  | true =>
      simp only [↓reduceIte, iff_true]
      exact ⟨session, refusedOutcome, rfl, rfl⟩
  | false =>
      simp only [Bool.false_eq_true, ↓reduceIte, iff_false]
      rintro ⟨next, outcome, returned, refused⟩
      cases planned : Command.plan (trimmed command) session.fieldNames with
      | error cause => simp [planned] at returned
      | ok plan =>
          simp only [planned, Except.ok.injEq] at returned
          have calm := (finish_plan_ends session (trimmed command) plan).1
          rw [returned, refused] at calm
          cases calm

/-- Editing at the level of the builder locks the builder exactly if the transforms of its state
take more than three steps. From then on every update fails for that reason and every command that
says anything is refused. -/
theorem builder_locked_iff (rows : List Row) (limit : Int) (session : Session)
    (reached : BuilderReached rows limit session) :
    (session.isCustom = true ↔ 3 < session.chart.state.stepCount) ∧
      (∀ updates description, session.updateBuilder updates description = .error .customSpec ↔
        3 < session.chart.state.stepCount) ∧
      ∀ command, (trimmed command).isEmpty = false →
        ((∃ next outcome, session.run command .phrases false = .ok (next, outcome) ∧
          outcome.error = some "custom_spec") ↔ 3 < session.chart.state.stepCount) := by
  obtain ⟨fields, made⟩ := (builder_all_compiled reached).live
  have decides : session.isCustom = true ↔ 3 < session.chart.state.stepCount := by
    rw [isCustom, made]
    exact Spec.compiled_custom_iff _ _
  refine ⟨decides, ?_, ?_⟩
  · intro updates description
    rw [control_locked_iff, decides]
  · intro command spoken
    rw [command_refused_iff session command spoken, decides]

def filtering : Json :=
  .object [("transforms", .list (List.replicate 4
    (.object [("kind", .text "filter"), ("expr", .text "datum.Sales > 0")])))]

def filtered : Session := ((blank.updateBuilder filtering none).toOption).getD blank

theorem filtering_returns : blank.updateBuilder filtering none = .ok filtered := rfl

/-- Four filters lock the builder: it cannot even be cleared of them. -/
theorem four_filters_lock :
    BuilderReached [] 2 filtered ∧
      filtered.updateBuilder (.object [("transforms", .list [])]) none = .error .customSpec ∧
      ∃ next outcome, filtered.run "change to line chart" .phrases false = .ok (next, outcome) ∧
        outcome.error = some "custom_spec" := by
  have reached : BuilderReached [] 2 filtered :=
    .control blank (.start blank blank_starts) filtering none filtered filtering_returns
  obtain ⟨_, controls, commands⟩ := builder_locked_iff [] 2 filtered reached
  have beyond : 3 < filtered.chart.state.stepCount := by decide +kernel
  refine ⟨reached, (controls _ none).mpr beyond, (commands _ ?_).mpr beyond⟩
  decide +kernel

end Session
end Chartwright
