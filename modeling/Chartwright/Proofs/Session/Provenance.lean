import Chartwright.Proofs.Session.Refinement
import Mathlib.Data.List.Induction

/-!
Where the chart of a session comes from when no specification was ever put in place by hand. A call
that compiles leaves a specification for the current fields. Undo and redo put stored charts back
without compiling them, and snapshots do not hold rows, so such a chart may be one that was compiled
for the fields of an earlier moment; but it always is the chart of such a moment.
-/

namespace Chartwright
open Form

def Call.KeepsToBuilder (call : Call) : Prop :=
  call.Builds ∨ call = .undo ∨ call = .redo

namespace Session

def after (first : Session) (calls : List Call) : Session :=
  calls.foldl (fun session call => (call.perform session).1) first

@[simp] theorem after_concat (first : Session) (calls : List Call) (call : Call) :
    first.after (calls ++ [call]) = (call.perform (first.after calls)).1 := by
  simp [after]

def Was (first : Session) (calls : List Call) (chart : Chart) : Prop :=
  ∃ earlier later, calls = earlier ++ later ∧ (first.after earlier).chart = chart ∧
    (first.after earlier).IsCurrent

theorem was_later {first : Session} {calls : List Call} {chart : Chart} (call : Call)
    (was : Was first calls chart) : Was first (calls ++ [call]) chart := by
  obtain ⟨earlier, later, rfl, live, current⟩ := was
  exact ⟨earlier, later ++ [call], by simp, live, current⟩

/-- After the `earlier` calls the chart was live and current. Later a `step` through the history
brought it back, and from then on neither chart nor fields changed. -/
structure BroughtBack (first : Session) (calls earlier between : List Call) (step : Call)
    (later : List Call) : Prop where
  order : calls = earlier ++ between ++ step :: later
  walks : step = .undo ∨ step = .redo
  led : (step.perform (first.after (earlier ++ between))).2 = .moved true
  current : (first.after earlier).IsCurrent
  chart : (first.after calls).chart = (first.after earlier).chart
  since : (first.after (earlier ++ between ++ [step])).chart = (first.after calls).chart ∧
    (first.after (earlier ++ between ++ [step])).fields = (first.after calls).fields

def IsTraced (first : Session) (calls : List Call) : Prop :=
  (first.after calls).IsCurrent ∨
    ∃ earlier between step later, BroughtBack first calls earlier between step later

theorem traced_was {first : Session} {calls : List Call} (traced : IsTraced first calls) :
    Was first calls (first.after calls).chart := by
  rcases traced with current | ⟨earlier, between, step, later, back⟩
  · exact ⟨calls, [], by simp, rfl, current⟩
  · exact ⟨earlier, between ++ step :: later, by simp [back.order], back.chart.symm, back.current⟩

theorem traced_unchanged {first : Session} {calls : List Call} {call : Call}
    (traced : IsTraced first calls)
    (chart : (call.perform (first.after calls)).1.chart = (first.after calls).chart)
    (fields : (call.perform (first.after calls)).1.fields = (first.after calls).fields) :
    IsTraced first (calls ++ [call]) := by
  rcases traced with current | ⟨earlier, between, step, later, back⟩
  · left
    simpa [IsCurrent, chart, fields] using current
  · refine .inr ⟨earlier, between, step, later ++ [call], ?_, back.walks, back.led, back.current,
      ?_, ?_⟩
    · simp [back.order]
    · rw [after_concat, chart, back.chart]
    · rw [after_concat first calls, chart, fields]
      exact back.since

theorem traced_walk {first : Session} {calls : List Call} {call : Call}
    {step : History Chart × Option Chart} (traced : IsTraced first calls)
    (walks : call = .undo ∨ call = .redo)
    (performs : call.perform (first.after calls) = stepped ((first.after calls).restored step))
    (led : History.Led (Was first calls) step) :
    IsTraced first (calls ++ [call]) ∧
      (first.after (calls ++ [call])).history.Every (Was first (calls ++ [call])) := by
  obtain ⟨history, result⟩ := step
  constructor
  · cases result with
    | none => exact traced_unchanged traced (by rw [performs]; rfl) (by rw [performs]; rfl)
    | some chart =>
        obtain ⟨earlier, later, rfl, live, current⟩ := led.2 chart rfl
        refine .inr ⟨earlier, later, call, [], by simp, walks, by rw [performs]; rfl, current, ?_,
          rfl, rfl⟩
        rw [after_concat, performs, live]
        rfl
  · rw [after_concat, performs]
    simp only [stepped, restored_history]
    exact History.every_mono (fun _ => was_later call) led.1

theorem traced_build {first : Session} {calls : List Call} {call : Call}
    (traced : IsTraced first calls) (builds : call.Builds) :
    IsTraced first (calls ++ [call]) := by
  have ends := Call.build_ends (first.after calls) call builds
  generalize (call.perform (first.after calls)).2 = ending at ends
  cases ends with
  | returned current =>
      left
      rwa [after_concat]
  | raised cause chart fields => exact traced_unchanged traced chart fields

-- The snapshots have to be traced along with the chart, since a step through the history may lead
-- to any of them.
theorem calls_traced {first : Session} {rows : List Row} {limit : Int}
    (started : Session.start rows limit = .ok first) (calls : List Call)
    (kept : ∀ call ∈ calls, call.KeepsToBuilder) :
    IsTraced first calls ∧ (first.after calls).history.Every (Was first calls) := by
  induction calls using List.reverseRecOn with
  | nil =>
      obtain ⟨_, history⟩ := start_empty started
      refine ⟨.inl (start_current started), ?_⟩
      rw [show first.after [] = first from rfl, history]
      exact History.empty_every _ _
  | append_singleton calls call ih =>
      obtain ⟨traced, every⟩ := ih fun other inside => kept other (by simp [inside])
      have live := traced_was traced
      rcases kept call (by simp) with builds | rfl | rfl
      · refine ⟨traced_build traced builds, ?_⟩
        have still : call ≠ .undo ∧ call ≠ .redo := by
          constructor <;> rintro rfl <;> exact builds
        have before := History.every_mono (fun _ => was_later call) every
        rw [after_concat]
        rcases Call.perform_history (first.after calls) call still with same | ⟨_, captured⟩
        · rw [same]
          exact before
        · rw [captured]
          exact History.capture_every _ _ before (was_later call live)
      · exact traced_walk traced (.inl rfl) rfl (History.undo_every _ every live)
      · exact traced_walk traced (.inr rfl) rfl (History.redo_every every)

/-- As long as no specification is put in place by hand, the live one is what the builder state
compiles to for the current fields, unless undo or redo brought the chart back from a moment with
other fields and neither chart nor fields have changed since. It then is what the state compiles to
for the fields of that moment. -/
theorem current_unless_brought_back (rows : List Row) (limit : Int) (first : Session)
    (started : Session.start rows limit = .ok first) (calls : List Call)
    (kept : ∀ call ∈ calls, call.KeepsToBuilder) :
    (first.after calls).IsCurrent ∨
      ∃ earlier between step later, BroughtBack first calls earlier between step later ∧
        (first.after earlier).fields ≠ (first.after calls).fields ∧
        (first.after calls).chart.spec =
          Spec.compile (first.after calls).chart.state (first.after earlier).fields := by
  rcases (calls_traced started calls kept).1 with current | ⟨earlier, between, step, later, back⟩
  · exact .inl current
  · have compiled : (first.after calls).chart.spec =
        Spec.compile (first.after calls).chart.state (first.after earlier).fields := by
      rw [back.chart]
      exact back.current
    by_cases fields : (first.after earlier).fields = (first.after calls).fields
    · left
      rwa [fields] at compiled
    · exact .inr ⟨earlier, between, step, later, back, fields, compiled⟩

/-! Rows with another column are loaded, and then that is undone. -/

def column (name : String) : List Row := [.record [(name, .value (.int 1))]]

def opened : Session := ((Session.start (column "a") 50).toOption).getD blank

theorem opened_starts : Session.start (column "a") 50 = .ok opened := rfl

def reload : List Call := [.setData (column "b") "Load data", .undo]

theorem reload_kept : ∀ call ∈ reload, call.KeepsToBuilder := by
  simp [reload, Call.KeepsToBuilder, Call.Builds]

-- The tooltip still shows the column that is gone.
theorem reload_stale : ¬(opened.after reload).IsCurrent := by
  intro current
  have apart : (Json.object (opened.after reload).chart.spec).same
      (.object (Spec.compile (opened.after reload).chart.state (opened.after reload).fields)) =
        false := by decide +kernel
  rw [← current, Json.same_refl] at apart
  cases apart

/-- It is not so that the specification is always the one for the current fields. -/
theorem not_always_current :
    ¬∀ (rows : List Row) (limit : Int) (first : Session),
      Session.start rows limit = .ok first → ∀ calls : List Call,
        (∀ call ∈ calls, call.KeepsToBuilder) → (first.after calls).IsCurrent := by
  intro always
  exact reload_stale (always (column "a") 50 opened opened_starts reload reload_kept)

/-- The chart that the undo brings back is the one for the first column. -/
theorem reload_brings_back :
    ∃ earlier between step later, BroughtBack opened reload earlier between step later ∧
      (opened.after earlier).fields ≠ (opened.after reload).fields ∧
      (opened.after reload).chart.spec =
        Spec.compile (opened.after reload).chart.state (opened.after earlier).fields :=
  (current_unless_brought_back (column "a") 50 opened opened_starts reload reload_kept).resolve_left
    reload_stale

end Session
end Chartwright
