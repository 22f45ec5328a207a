import Chartwright.Proofs.Edit.Merging
import Chartwright.Proofs.Edit.Validity
import Chartwright.Proofs.Session.Interruption

/-!
Sessions hold valid builder states. Whatever calls are made, be it that they return, raise or are
broken off by a copy, the state that is shown and those of all snapshots abide by the rules, as long
as the calls are given valid parts, plans and changes. Documents may hold anything, since they are
read first.
-/

namespace Chartwright
open Form

/-- The arguments of a call that are not read by it are valid as they are. -/
def Call.Legal : Call → Prop
  | .mutate change _ => ∀ state, state.Valid → (change state).Valid
  | .merge part _ => part.Valid
  | .applyPlan plan _ => ∀ operation ∈ plan.operations, operation.Valid
  | .setSpec _ part _ => ∀ given ∈ part, given.Valid
  | _ => True

namespace Session

/-- The sessions that legal calls lead to from a new one, with room for more or less copies in each.
Listeners come and go, and a plan may be remembered without being applied. -/
inductive LegallyReached (rows : List Row) (limit : Int) : Session → Prop where
  | start (first : Session) (started : Session.start rows limit = .ok first) :
      LegallyReached rows limit first
  | call (session : Session) (before : LegallyReached rows limit session) (call : Call)
      (legal : call.Legal) (fits : Copy → Bool) :
      LegallyReached rows limit (left (call.work fits session))
  | subscribe (session : Session) (before : LegallyReached rows limit session)
      (listener : Listener) : LegallyReached rows limit (session.subscribe listener)
  | unsubscribe (session : Session) (before : LegallyReached rows limit session) (id : String) :
      LegallyReached rows limit (session.unsubscribe id)
  | remember (session : Session) (before : LegallyReached rows limit session)
      (plan : Option Plan) : LegallyReached rows limit { session with lastPlan := plan }

/-- The chart that is shown and all snapshots are of valid states. -/
structure AllValid (session : Session) : Prop where
  live : session.chart.state.Valid
  stored : session.history.Every fun chart => chart.state.Valid

theorem updated_part_valid {updates : Json} {part : PartialState}
    (read : Call.updatedPart updates = .valid part) : part.Valid := by
  unfold Call.updatedPart at read
  cases named : Updates.entries updates with
  | error cause =>
      rw [named] at read
      cases read
  | ok entries =>
      rw [named] at read
      exact PartialState.part_yields _ part read

theorem merged_state_valid {state : BuilderState} {part : PartialState} (valid : state.Valid)
    (legal : part.Valid) : (Call.mergedState state (.valid part)).Valid := by
  have same : Call.mergedState state (.valid part) = (state.merge part).toOption.getD state := rfl
  rw [same]
  cases merged : state.merge part with
  | faulty faults => exact valid
  | valid new => exact BuilderState.merge_valid valid legal merged

theorem set_data_state (session : Session) (rows : List Row) (description : String) :
    (session.setData rows description).1.chart.state = session.chart.state := by
  unfold setData replaceRows
  cases Table.inferFields rows <;> rfl

theorem set_data_only_state (session : Session) (rows : List Row) (description : Option String) :
    (session.setDataOnly rows description).1.chart.state = session.chart.state := by
  unfold setDataOnly replaceRows
  cases Table.inferFields rows <;> cases (filled? description).isSome <;> rfl

end Session

namespace Call
open Session

/-- A call that is no step through the history puts no invalid state in place. -/
theorem edit_valid {session : Session} {call : Call} (legal : call.Legal)
    (still : call ≠ .undo ∧ call ≠ .redo) (live : session.chart.state.Valid) :
    (call.perform session).1.chart.state.Valid := by
  cases call with
  | mutate change description => exact legal _ live
  | merge part description =>
      simp only [perform]
      cases set : session.setBuilderState part description with
      | faulty faults => exact live
      | valid next =>
          obtain ⟨state, merged, rfl⟩ := set_state_returns set
          exact BuilderState.merge_valid live legal merged
  | update updates description =>
      simp only [perform]
      cases set : session.update updates description with
      | error cause => exact live
      | ok next =>
          obtain ⟨state, both, rfl⟩ := update_returns set
          obtain ⟨part, read, merged⟩ := Checked.andThen_eq_valid.mp both
          exact BuilderState.merge_valid live (updated_part_valid read) merged
  | applyPlan plan description =>
      exact (Operation.plan_keeps plan.operations _ live legal).valid
  | setSpec spec part description =>
      simp only [perform]
      cases set : session.setSpec spec part description with
      | faulty faults => exact live
      | valid next =>
          have state : next.chart = target session (.setSpec spec part description) :=
            (set_spec_returns set).chart
          simp only [ended, state]
          cases part with
          | none => exact live
          | some part => exact merged_state_valid live (legal part rfl)
  | setData rows description =>
      simp only [perform, loaded_session, set_data_state]
      exact live
  | setDataOnly rows description =>
      simp only [perform, loaded_session, set_data_only_state]
      exact live
  | reset => exact default_valid
  | capture description => exact live
  | undo => exact absurd rfl still.1
  | redo => exact absurd rfl still.2

theorem perform_all_valid {session : Session} {call : Call} (legal : call.Legal)
    (all : session.AllValid) : (call.perform session).1.AllValid := by
  by_cases walks : call = .undo ∨ call = .redo
  · have led : ∃ step, (call.perform session).1 = (session.restored step).1 ∧
        History.Led (fun chart => chart.state.Valid) step := by
      rcases walks with rfl | rfl
      · exact ⟨_, rfl, History.undo_every _ all.stored all.live⟩
      · exact ⟨_, rfl, History.redo_every all.stored⟩
    obtain ⟨step, same, led⟩ := led
    obtain ⟨live, stored⟩ := restored_every all.live led
    rw [same]
    exact ⟨live, stored⟩
  · have still := not_or.mp walks
    refine ⟨edit_valid legal still all.live, ?_⟩
    rcases perform_history session call still with kept | ⟨description, taken⟩
    · rw [kept]
      exact all.stored
    · rw [taken]
      exact History.capture_every _ _ all.stored all.live

end Call

namespace Session

-- The snapshots have to be valid along with the chart, since a step through the history may lead to
-- any of them.
theorem legally_reached_valid {rows : List Row} {limit : Int} {session : Session}
    (reached : LegallyReached rows limit session) : session.AllValid := by
  induction reached with
  | start first started =>
      obtain ⟨_, fields, rfl⟩ := start_opens started
      exact ⟨default_valid, History.empty_every _ _⟩
  | call session before call legal fits ih =>
      have after := Call.perform_all_valid legal ih
      obtain ⟨live, stored⟩ := Call.work_every ih.live ih.stored after.live after.stored
      exact ⟨live, stored⟩
  | subscribe session before listener ih => exact ⟨ih.live, ih.stored⟩
  | unsubscribe session before id ih => exact ⟨ih.live, ih.stored⟩
  | remember session before plan ih => exact ⟨ih.live, ih.stored⟩

end Session
end Chartwright
