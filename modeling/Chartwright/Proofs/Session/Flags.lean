import Chartwright.Proofs.Session.Refinement

/-!
Whether the flags of a session tell the truth about undo and redo. They do wherever the history has
room for two snapshots. With room for one, the tip that undo takes first pushes out the snapshot it
was to go back to: the flag promises an undo, none is done, and the snapshot is lost.
-/

namespace Chartwright
open Form

namespace History
variable {α : Type} {same : α → α → Bool}

/-! A history keeps within its limit. -/

theorem capture_size (content : α) (description : Option String) {history : History α}
    (positive : 0 < history.limit) (fits : history.size ≤ history.limit) :
    (history.capture same content description).1.size ≤ history.limit := by
  unfold size at fits
  unfold capture size
  cases list : history.taken with
  | nil =>
      simp only [List.length_cons, List.length_nil]
      omega
  | cons newest older =>
      rw [list, List.length_cons] at fits
      cases known : same newest.content content with
      | true =>
          simp only [known, ↓reduceIte, List.length_cons, List.length_nil]
          omega
      | false =>
          simp only [known, Bool.false_eq_true, ↓reduceIte, List.length_take, List.length_nil]
          omega

theorem step_back_size (history : History α) : history.stepBack.1.size = history.size := by
  obtain ⟨limit, taken, undone⟩ := history
  rcases taken with _ | ⟨newest, _ | ⟨previous, older⟩⟩
  · rfl
  · rfl
  · simp only [stepBack, size, List.length_cons]
    omega

theorem undo_size (live : Option α) {history : History α} (positive : 0 < history.limit)
    (fits : history.size ≤ history.limit) :
    (history.undo same live).1.size ≤ history.limit := by
  unfold undo
  cases live with
  | none =>
      rw [step_back_size]
      exact fits
  | some content =>
      by_cases behind : history.isBehind same content = true
      · simp only [behind, ↓reduceIte, step_back_size]
        exact capture_size content _ positive fits
      · simp only [behind, Bool.false_eq_true, ↓reduceIte, step_back_size]
        exact fits

theorem redo_size (history : History α) : history.redo.1.size = history.size := by
  obtain ⟨limit, taken, undone⟩ := history
  cases undone with
  | nil => rfl
  | cons next rest =>
      simp only [redo, size, List.length_cons]
      omega

/-! When a step leads somewhere, and that one which does not leaves everything in place. -/

theorem step_back_leads (history : History α) : history.stepBack.2.isSome = history.canUndo := by
  obtain ⟨limit, taken, undone⟩ := history
  rcases taken with _ | ⟨newest, _ | ⟨previous, older⟩⟩
  · rfl
  · rfl
  · simp [stepBack, canUndo]

theorem step_back_nowhere {history : History α} (stuck : history.canUndo = false) :
    history.stepBack = (history, none) := by
  obtain ⟨limit, taken, undone⟩ := history
  rcases taken with _ | ⟨newest, _ | ⟨previous, older⟩⟩
  · rfl
  · rfl
  · simp [canUndo] at stuck

theorem redo_leads (history : History α) : history.redo.2.isSome = history.canRedo := by
  obtain ⟨limit, taken, undone⟩ := history
  cases undone <;> rfl

theorem redo_nowhere {history : History α} (stuck : history.canRedo = false) :
    history.redo = (history, none) := by
  obtain ⟨limit, taken, undone⟩ := history
  cases undone with
  | nil => rfl
  | cons next rest => simp [canRedo] at stuck

/-- The tip goes on top of what is on the list, as far as the limit leaves room for it. -/
theorem capture_behind {history : History α} {live : α} (description : Option String)
    (behind : history.isBehind same live = true) :
    (history.capture same live description).1 =
      { history with taken := (⟨live, description⟩ :: history.taken).take history.limit } := by
  obtain ⟨limit, taken, undone⟩ := history
  simp only [isBehind, Bool.and_eq_true, Bool.not_eq_true', List.isEmpty_iff] at behind
  obtain ⟨⟨some, rfl⟩, moved⟩ := behind
  cases taken with
  | nil => simp at some
  | cons newest older =>
      have new : same newest.content live = false := by simpa [holds] using moved
      simp [capture, new]

theorem undo_level {history : History α} {live : α} (level : history.isBehind same live = false) :
    history.undo same (some live) = history.stepBack := by
  simp [undo, level]

-- With room for two the tip and the snapshot below it both stay, so the step back is there.
theorem undo_behind_leads {history : History α} {live : α} (room : 1 < history.limit)
    (behind : history.isBehind same live = true) :
    (history.undo same (some live)).2.isSome = true := by
  have taken : history.taken ≠ [] := by
    intro none
    simp [isBehind, none] at behind
  have size := List.length_pos_of_ne_nil taken
  simp only [undo, behind, ↓reduceIte, capture_behind _ behind, step_back_leads, canUndo,
    List.length_take, List.length_cons, decide_eq_true_eq]
  omega

theorem undo_behind_loses {history : History α} {live : α} (room : history.limit = 1)
    (behind : history.isBehind same live = true) :
    history.undo same (some live) =
      ({ history with taken := [⟨live, some tipDescription⟩] }, none) := by
  simp only [undo, behind, ↓reduceIte, capture_behind _ behind, room, List.take_succ_cons,
    List.take_zero]
  exact step_back_nowhere rfl

end History

namespace Session

/-- The sessions that any calls lead to from a new one, be it that they return or raise. Listeners
come and go, and a plan may be remembered without being applied. -/
inductive Reached (rows : List Row) (limit : Int) : Session → Prop where
  | start (first : Session) (started : Session.start rows limit = .ok first) :
      Reached rows limit first
  | call (session : Session) (before : Reached rows limit session) (call : Call) :
      Reached rows limit (call.perform session).1
  | subscribe (session : Session) (before : Reached rows limit session) (listener : Listener) :
      Reached rows limit (session.subscribe listener)
  | unsubscribe (session : Session) (before : Reached rows limit session) (id : String) :
      Reached rows limit (session.unsubscribe id)
  | remember (session : Session) (before : Reached rows limit session) (plan : Option Plan) :
      Reached rows limit { session with lastPlan := plan }

/-- The history has the room it was given, and no more snapshots than that. -/
structure KeepsRoom (limit : Int) (history : History Chart) : Prop where
  room : history.limit = room limit
  fits : history.size ≤ history.limit

theorem perform_keeps_room {limit : Int} {session : Session} (positive : 0 < room limit)
    (keeps : KeepsRoom limit session.history) (call : Call) :
    KeepsRoom limit (call.perform session).1.history := by
  have space : 0 < session.history.limit := keeps.room ▸ positive
  by_cases walks : call = .undo ∨ call = .redo
  · rcases walks with rfl | rfl
    · simp only [Call.perform, stepped, Session.undo, restored_history]
      exact ⟨by simp [keeps.room], by simpa using History.undo_size _ space keeps.fits⟩
    · simp only [Call.perform, stepped, Session.redo, restored_history]
      exact ⟨by simp [keeps.room], by simpa [History.redo_size] using keeps.fits⟩
  · obtain ⟨notUndo, notRedo⟩ := not_or.mp walks
    rcases Call.perform_history session call ⟨notUndo, notRedo⟩ with still | ⟨description, taken⟩
    · rw [still]
      exact keeps
    · rw [taken]
      exact ⟨by simp [captured, keeps.room],
        by simpa [captured] using History.capture_size _ description space keeps.fits⟩

theorem reached_keeps_room {rows : List Row} {limit : Int} {session : Session}
    (reached : Reached rows limit session) : 0 < room limit ∧ KeepsRoom limit session.history := by
  induction reached with
  | start first started =>
      obtain ⟨positive, history⟩ := start_empty started
      rw [history]
      exact ⟨positive, rfl, Nat.zero_le _⟩
  | call session before call ih => exact ⟨ih.1, perform_keeps_room ih.1 ih.2 call⟩
  | subscribe session before listener ih => exact ih
  | unsubscribe session before id ih => exact ih
  | remember session before plan ih => exact ih

theorem undo_flag (session : Session) :
    session.view.canUndo = (session.history.canUndo || session.isBehind) := rfl

theorem undo_leads (session : Session) :
    session.undo.2 = (session.history.undo Chart.same (some session.chart)).2.isSome :=
  restored_led ..

theorem restored_nowhere (session : Session) :
    session.restored (session.history, none) = (session, false) := rfl

/-- The flags tell the truth but in one case. The flag for redo always does. The flag for undo does
unless the history has room for one snapshot only and the chart has moved on from it, and a step
that leads nowhere leaves the session as it is. In the one case the flag promises an undo, none is
done, and the only snapshot gives way to one of the chart there is. -/
theorem flags_true_but_for_lost_tip (rows : List Row) (limit : Int) (session : Session)
    (reached : Reached rows limit session) :
    session.view.canRedo = session.redo.2 ∧
      (session.redo.2 = false → session.redo.1 = session) ∧
      (¬(limit = 1 ∧ session.isBehind = true) →
        session.view.canUndo = session.undo.2 ∧
          (session.undo.2 = false → session.undo.1 = session)) ∧
      (limit = 1 → session.isBehind = true →
        session.view.canUndo = true ∧ session.undo.2 = false ∧
          session.undo.1 = { session with
            history := { session.history with
              taken := [⟨session.chart, some History.tipDescription⟩] } } ∧
          session.undo.1.isBehind = false) := by
  obtain ⟨positive, space, fits⟩ := reached_keeps_room reached
  have redoes : session.redo.2 = session.history.canRedo :=
    (restored_led ..).trans (History.redo_leads _)
  refine ⟨redoes.symm, ?_, ?_, ?_⟩
  · intro nowhere
    rw [redoes] at nowhere
    rw [Session.redo, History.redo_nowhere nowhere, restored_nowhere]
  · intro apart
    cases behind : session.isBehind with
    | true =>
        -- A limit other than one leaves room for two, since there is room for one at least.
        have wide : 1 < session.history.limit := by
          have other : limit ≠ 1 := fun one => apart ⟨one, behind⟩
          rw [space]
          unfold room History.maximum at positive ⊢
          omega
        have leads : session.undo.2 = true :=
          (undo_leads session).trans (History.undo_behind_leads wide behind)
        simp [undo_flag, behind, leads]
    | false =>
        have steps : session.undo = session.restored session.history.stepBack := by
          rw [Session.undo, History.undo_level behind]
        have leads : session.undo.2 = session.history.canUndo := by
          rw [steps, restored_led, History.step_back_leads]
        refine ⟨by rw [undo_flag, behind, Bool.or_false, leads], fun nowhere => ?_⟩
        rw [leads] at nowhere
        rw [steps, History.step_back_nowhere nowhere, restored_nowhere]
  · rintro rfl behind
    have loses := History.undo_behind_loses space behind
    have undoes : session.undo = session.restored _ := congrArg session.restored loses
    refine ⟨by rw [undo_flag, behind, Bool.or_true], by rw [undoes]; rfl, by rw [undoes]; rfl, ?_⟩
    rw [undoes]
    simp [restored, isBehind, History.isBehind, History.holds, same_chart_alike.refl]

def narrow : Session := { blank with history := { limit := 1 } }

theorem narrow_starts : Session.start [] 1 = .ok narrow := rfl

/-- After one edit the flag promises an undo that is not done. -/
theorem promised_undo_not_done :
    Reached [] 1 (titling.perform narrow).1 ∧
      (titling.perform narrow).1.view.canUndo = true ∧
      (titling.perform narrow).1.undo.2 = false ∧
      (titling.perform narrow).1.undo.1.isBehind = false := by
  have reached : Reached [] 1 (titling.perform narrow).1 :=
    .call narrow (.start narrow narrow_starts) titling
  have behind : (titling.perform narrow).1.isBehind = true := by decide +kernel
  obtain ⟨flag, undone, _, lost⟩ :=
    (flags_true_but_for_lost_tip [] 1 _ reached).2.2.2 rfl behind
  exact ⟨reached, flag, undone, lost⟩

/-- It is not so that the flag for undo always tells whether an undo is done. -/
theorem undo_flag_not_always_true :
    ¬∀ (rows : List Row) (limit : Int) (session : Session), Reached rows limit session →
      session.view.canUndo = session.undo.2 := by
  intro always
  have flag := always [] 1 _ (.call narrow (.start narrow narrow_starts) titling)
  have promised : (titling.perform narrow).1.view.canUndo = true := by decide +kernel
  have undone : (titling.perform narrow).1.undo.2 = false := by decide +kernel
  rw [promised, undone] at flag
  cases flag

end Session
end Chartwright
