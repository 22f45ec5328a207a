import Chartwright.Proofs.Json.Equality
import Chartwright.Proofs.Session.Run

/-!
The undo history of a session refines a zipper of charts. The zipper knows nothing of snapshots: an
edit moves it to the chart the edit puts in place, and undo and redo walk along it. Whatever the
calls, the chart of the session is the present of the zipper.
-/

namespace Chartwright
open Form

theorem same_state_alike : Alike BuilderState.same where
  refl a := by simp [BuilderState.same, Json.same_refl]
  symm a b equal := by
    simp only [BuilderState.same, Bool.and_eq_true, beq_iff_eq] at equal ⊢
    exact ⟨Json.same_symm _ _ equal.1, equal.2.symm⟩
  trans a b c first second := by
    simp only [BuilderState.same, Bool.and_eq_true, beq_iff_eq] at first second ⊢
    exact ⟨Json.same_trans _ _ _ first.1 second.1, first.2.trans second.2⟩

theorem same_chart_alike : Alike Chart.same where
  refl a := by simp [Chart.same, same_state_alike.refl, Json.same_refl]
  symm a b equal := by
    simp only [Chart.same, Bool.and_eq_true] at equal ⊢
    exact ⟨same_state_alike.symm _ _ equal.1, Json.same_symm _ _ equal.2⟩
  trans a b c first second := by
    simp only [Chart.same, Bool.and_eq_true] at first second ⊢
    exact ⟨same_state_alike.trans _ _ _ first.1 second.1, Json.same_trans _ _ _ first.2 second.2⟩

namespace Session

/-- The sessions that calls lead to from a new one, each with the zipper that the same calls lead
to. All calls are edits that return and steps through the history. -/
inductive Beside (rows : List Row) (limit : Int) : Session → Zipper Chart → Prop where
  | start (first : Session) (started : Session.start rows limit = .ok first) :
      Beside rows limit first { present := first.chart }
  | edit (session : Session) (zipper : Zipper Chart) (before : Beside rows limit session zipper)
      (call : Call) (edits : call.IsEdit) (returned : (call.perform session).2 = .done) :
      Beside rows limit (call.perform session).1
        (zipper.edit Chart.same (room limit) (call.target session))
  | undo (session : Session) (zipper : Zipper Chart) (before : Beside rows limit session zipper) :
      Beside rows limit (Call.undo.perform session).1 zipper.undo.1
  | redo (session : Session) (zipper : Zipper Chart) (before : Beside rows limit session zipper) :
      Beside rows limit (Call.redo.perform session).1 zipper.redo.1

theorem beside_mirrors {rows : List Row} {limit : Int} {session : Session} {zipper : Zipper Chart}
    (beside : Beside rows limit session zipper) :
    session.history.limit = room limit ∧
      session.history.Mirrors Chart.same session.chart zipper := by
  induction beside with
  | start first started =>
      obtain ⟨positive, history⟩ := start_empty started
      rw [history]
      exact ⟨rfl, History.empty_mirrors same_chart_alike _ positive _⟩
  | edit session zipper before call edits returned ih =>
      obtain ⟨size, mirrors⟩ := ih
      obtain ⟨chart, description, history⟩ := Call.edit_returns session call edits returned
      have rests := History.capture_rests same_chart_alike description mirrors
      have moved := History.edit_mirrors same_chart_alike (call.target session) rests
      rw [History.capture_limit, size] at moved
      rw [chart, history]
      exact ⟨by simp [captured, size], moved⟩
  | undo session zipper before ih =>
      obtain ⟨size, mirrors⟩ := ih
      have moved := (History.undo_mirrors same_chart_alike mirrors).2
      simpa [Call.perform, stepped, Session.undo, size] using moved
  | redo session zipper before ih =>
      obtain ⟨size, mirrors⟩ := ih
      have moved := (History.redo_mirrors mirrors).2
      simpa [Call.perform, stepped, Session.redo, size] using moved

/-- The undo history refines a zipper of at most `room limit` charts. The chart of the session is
the present of the zipper. Undo and redo lead somewhere exactly if the zipper has a past or a
future, and change nothing of the chart if they lead nowhere. An edit puts its target in place. -/
theorem history_refines_zipper (rows : List Row) (limit : Int) (session : Session)
    (zipper : Zipper Chart) (beside : Beside rows limit session zipper) :
    session.chart.same zipper.present = true ∧
      (Call.undo.perform session).2 = .moved zipper.undo.2 ∧
      (zipper.undo.2 = false → (Call.undo.perform session).1.chart = session.chart) ∧
      (Call.redo.perform session).2 = .moved zipper.redo.2 ∧
      (zipper.redo.2 = false → (Call.redo.perform session).1.chart = session.chart) ∧
      ∀ call : Call, call.IsEdit → (call.perform session).2 = .done →
        (call.perform session).1.chart = call.target session := by
  obtain ⟨_, mirrors⟩ := beside_mirrors beside
  have back := (History.undo_mirrors same_chart_alike mirrors).1
  have forth := (History.redo_mirrors mirrors).1
  refine ⟨mirrors.present, ?_, ?_, ?_, ?_, ?_⟩
  · simp [Call.perform, stepped, Session.undo, back]
  · intro nowhere
    rw [nowhere, Option.isSome_eq_false_iff, Option.isNone_iff_eq_none] at back
    simp [Call.perform, stepped, Session.undo, back]
  · simp [Call.perform, stepped, Session.redo, forth]
  · intro nowhere
    rw [nowhere, Option.isSome_eq_false_iff, Option.isNone_iff_eq_none] at forth
    simp [Call.perform, stepped, Session.redo, forth]
  · intro call edits returned
    exact (Call.edit_returns session call edits returned).chart

def titling : Call := .mutate (fun state => { state with title := some (.checked "Sales") }) none

theorem title_undone :
    ∃ zipper, Beside [] 2 (titling.perform blank).1 zipper ∧
      (Call.undo.perform (titling.perform blank).1).2 = .moved true ∧
      zipper.undo.1.future.length = 1 := by
  have beside := Beside.edit blank _ (.start blank blank_starts) titling trivial rfl
  refine ⟨_, beside, (history_refines_zipper [] 2 _ _ beside).2.1.trans ?_, ?_⟩
  · exact congrArg Ending.moved (by decide)
  · decide

end Session
end Chartwright
