import Chartwright.Session.History
import Mathlib.Tactic.Tauto

/-!
What the operations of an undo history do with its snapshots: they keep within the same limit, and
whatever is on the list or is led to was on the list before or was the live content.
-/

namespace Chartwright
namespace History
variable {α : Type} {same : α → α → Bool}

@[simp] theorem capture_limit (content : α) (description : Option String) (history : History α) :
    (history.capture same content description).1.limit = history.limit := by
  unfold capture
  cases history.taken with
  | nil => rfl
  | cons newest older => cases known : same newest.content content <;> simp [known]

@[simp] theorem step_back_limit (history : History α) :
    history.stepBack.1.limit = history.limit := by
  unfold stepBack
  split <;> rfl

@[simp] theorem undo_limit (live : Option α) (history : History α) :
    (history.undo same live).1.limit = history.limit := by
  unfold undo
  cases live with
  | none => simp
  | some content => by_cases behind : history.isBehind same content = true <;> simp [behind]

@[simp] theorem redo_limit (history : History α) : history.redo.1.limit = history.limit := by
  unfold redo
  split <;> rfl

/-- Something that holds of all contents on the list. -/
def Every (holds : α → Prop) (history : History α) : Prop :=
  ∀ snapshot ∈ history.taken ++ history.undone, holds snapshot.content

theorem every_mono {holds weaker : α → Prop} {history : History α}
    (weaken : ∀ content, holds content → weaker content) (every : history.Every holds) :
    history.Every weaker :=
  fun snapshot inside => weaken _ (every snapshot inside)

theorem empty_every (holds : α → Prop) (limit : Nat) : Every holds { limit } := by
  intro snapshot inside
  cases inside

theorem branched_every {holds : α → Prop} {history : History α} (every : history.Every holds) :
    history.branched.Every holds := by
  intro snapshot inside
  simp only [branched, List.append_nil] at inside
  exact every snapshot (List.mem_append_left _ inside)

theorem capture_every {holds : α → Prop} {history : History α} (content : α)
    (description : Option String) (every : history.Every holds) (live : holds content) :
    (history.capture same content description).1.Every holds := by
  intro snapshot inside
  unfold capture at inside
  cases list : history.taken with
  | nil =>
      simp only [list, List.append_nil, List.mem_singleton] at inside
      rw [inside]
      exact live
  | cons newest older =>
      cases known : same newest.content content with
      | true =>
          simp only [list, known, ↓reduceIte, List.append_nil] at inside
          exact every snapshot (List.mem_append_left _ (list ▸ inside))
      | false =>
          simp only [list, known, Bool.false_eq_true, ↓reduceIte, List.append_nil] at inside
          rcases List.mem_cons.mp (List.mem_of_mem_take inside) with fresh | old
          · rw [fresh]
            exact live
          · exact every snapshot (List.mem_append_left _ (list ▸ old))

/-- Where a step through a history leads, and what it leaves on the list. -/
def Led (holds : α → Prop) (step : History α × Option α) : Prop :=
  step.1.Every holds ∧ ∀ content, step.2 = some content → holds content

theorem step_back_every {holds : α → Prop} {history : History α} (every : history.Every holds) :
    Led holds history.stepBack := by
  obtain ⟨limit, taken, undone⟩ := history
  rcases taken with _ | ⟨newest, _ | ⟨previous, older⟩⟩
  · exact ⟨every, by simp [stepBack]⟩
  · exact ⟨every, by simp [stepBack]⟩
  · constructor
    · intro snapshot inside
      apply every
      simp only [stepBack, List.mem_append, List.mem_cons] at inside ⊢
      tauto
    · rintro content ⟨⟩
      exact every previous (by simp)

theorem undo_every {holds : α → Prop} {history : History α} (live : α)
    (every : history.Every holds) (here : holds live) :
    Led holds (history.undo same (some live)) := by
  unfold undo
  by_cases behind : history.isBehind same live = true
  · simp only [behind, ↓reduceIte]
    exact step_back_every (capture_every live _ every here)
  · simp only [behind, Bool.false_eq_true, ↓reduceIte]
    exact step_back_every every

theorem redo_every {holds : α → Prop} {history : History α} (every : history.Every holds) :
    Led holds history.redo := by
  obtain ⟨limit, taken, undone⟩ := history
  cases undone with
  | nil => exact ⟨every, by simp [redo]⟩
  | cons next rest =>
      constructor
      · intro snapshot inside
        apply every
        simp only [redo, List.mem_append, List.mem_cons] at inside ⊢
        tauto
      · rintro content ⟨⟩
        exact every next (by simp)

end History
end Chartwright
