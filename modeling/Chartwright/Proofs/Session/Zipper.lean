import Chartwright.Proofs.Session.Snapshots
import Mathlib.Data.List.Forall2

/-!
What an undo history stands for: a zipper whose present is the live content. The history takes its
snapshots before edits and takes the tip only when undo leaves it, so the live content is at times
on the list of snapshots and at times ahead of it. Contents are compared by a relation that is an
equivalence, as the history itself does.
-/

namespace Chartwright

structure Alike {α : Type} (same : α → α → Bool) : Prop where
  refl : ∀ a, same a a = true
  symm : ∀ a b, same a b = true → same b a = true
  trans : ∀ a b c, same a b = true → same b c = true → same a c = true

/-- The present content, the past with the newest first and the future with the nearest first. -/
structure Zipper (α : Type) where
  past : List α := []
  present : α
  future : List α := []

namespace Zipper
variable {α : Type}

/-- Moves to a content. What equals the present is no move, but it ends the future. Of the past
only the newest are kept, so that with the present there are at most `limit`. -/
def edit (same : α → α → Bool) (limit : Nat) (target : α) (zipper : Zipper α) : Zipper α :=
  if same zipper.present target then { zipper with future := [] }
  else { past := (zipper.present :: zipper.past).take (limit - 1), present := target }

def undo (zipper : Zipper α) : Zipper α × Bool :=
  match zipper.past with
  | [] => (zipper, false)
  | newest :: older =>
    ({ past := older, present := newest, future := zipper.present :: zipper.future }, true)

def redo (zipper : Zipper α) : Zipper α × Bool :=
  match zipper.future with
  | [] => (zipper, false)
  | nearest :: later =>
    ({ past := zipper.present :: zipper.past, present := nearest, future := later }, true)

end Zipper

namespace History
variable {α : Type} {same : α → α → Bool}

def Hold (same : α → α → Bool) : List (Snapshot α) → List α → Prop :=
  List.Forall₂ fun snapshot content => same snapshot.content content = true

/-- The present is on the list of snapshots, at the cursor. -/
structure Rests (same : α → α → Bool) (history : History α) (zipper : Zipper α) : Prop where
  room : zipper.past.length + zipper.future.length < history.limit
  taken : Hold same history.taken (zipper.present :: zipper.past)
  undone : Hold same history.undone zipper.future

/-- The present has moved on from the snapshots. Those that will stay when it is taken are the
past. -/
structure Ahead (same : α → α → Bool) (history : History α) (live : α) (zipper : Zipper α) :
    Prop where
  positive : 0 < history.limit
  size : history.taken.length ≤ history.limit
  moved : history.holds same live = false
  past : Hold same (history.taken.take (history.limit - 1)) zipper.past
  undone : history.undone = []
  future : zipper.future = []

/-- The live content is the present of the zipper, and the history has its past and future. -/
structure Mirrors (same : α → α → Bool) (history : History α) (live : α) (zipper : Zipper α) :
    Prop where
  present : same live zipper.present = true
  place : history.Rests same zipper ∨ history.Ahead same live zipper

theorem empty_mirrors (alike : Alike same) (limit : Nat) (positive : 0 < limit) (live : α) :
    Mirrors same { limit } live { present := live } :=
  ⟨alike.refl live, .inr ⟨positive, Nat.zero_le _, rfl, by simp [Hold], rfl, rfl⟩⟩

theorem rests_holds (alike : Alike same) {history : History α} {zipper : Zipper α}
    (rests : history.Rests same zipper) (content : α) :
    history.holds same content = true ↔ same zipper.present content = true := by
  have taken := rests.taken
  unfold holds
  cases list : history.taken with
  | nil =>
      rw [list] at taken
      cases taken
  | cons newest older =>
      rw [list] at taken
      obtain ⟨here, _⟩ := List.forall₂_cons.mp taken
      constructor
      · intro held
        exact alike.trans _ _ _ (alike.symm _ _ here) held
      · intro equal
        exact alike.trans _ _ _ here equal

-- Wherever the live content was, a snapshot of it puts the history to rest. An edit takes one
-- first, so what it does has to be shown from rest only.
theorem capture_rests (alike : Alike same) {history : History α} {live : α} {zipper : Zipper α}
    (description : Option String) (mirrors : history.Mirrors same live zipper) :
    (history.capture same live description).1.Rests same { zipper with future := [] } := by
  rcases mirrors.place with rests | ahead
  · have holds := (rests_holds alike rests live).mpr (alike.symm _ _ mirrors.present)
    have taken := rests.taken
    cases list : history.taken with
    | nil => simp [History.holds, list] at holds
    | cons newest older =>
        have known : same newest.content live = true := by simpa [History.holds, list] using holds
        have room := rests.room
        rw [list] at taken
        -- The cursor holds the content already, so all that goes is the future.
        constructor
        · simp only [capture_limit, List.length_nil]
          omega
        · simpa [capture, list, known] using taken
        · simp [capture, list, known, Hold]
  · have past := ahead.past
    have positive := ahead.positive
    cases list : history.taken with
    | nil =>
        have none : zipper.past = [] := by
          simpa [Hold, list, List.forall₂_nil_left_iff] using past
        constructor
        · simpa [none] using positive
        · simpa [capture, list, none, Hold] using mirrors.present
        · simp [capture, list, Hold]
    | cons newest older =>
        have new : same newest.content live = false := by
          simpa [History.holds, list] using ahead.moved
        have shape : history.limit = (history.limit - 1) + 1 := by omega
        have count := past.length_eq
        rw [list] at past count
        simp only [List.length_take] at count
        constructor
        · simp only [capture_limit, List.length_nil]
          omega
        -- What the limit leaves beside the new snapshot is what was past already.
        · simp only [capture, list, new, Bool.false_eq_true, ↓reduceIte]
          rw [shape, List.take_succ_cons]
          exact .cons mirrors.present past
        · simp [capture, list, new, Hold]

theorem edit_mirrors (alike : Alike same) {history : History α} {zipper : Zipper α} (target : α)
    (rests : history.Rests same { zipper with future := [] }) :
    history.Mirrors same target (zipper.edit same history.limit target) := by
  by_cases unmoved : same zipper.present target = true
  · rw [Zipper.edit, if_pos unmoved]
    exact ⟨alike.symm _ _ unmoved, .inl rests⟩
  · rw [Zipper.edit, if_neg unmoved]
    have room := rests.room
    have count := rests.taken.length_eq
    simp only [List.length_cons, List.length_nil] at room count
    refine ⟨alike.refl target, .inr ⟨by omega, by omega, ?_, ?_, ?_, rfl⟩⟩
    · rw [Bool.eq_false_iff]
      intro held
      exact unmoved ((rests_holds alike rests target).mp held)
    · exact List.forall₂_take _ rests.taken
    · exact List.forall₂_nil_right_iff.mp rests.undone

theorem step_back_mirrors {history : History α} {live : α} {zipper : Zipper α}
    (rests : history.Rests same zipper) (present : same live zipper.present = true) :
    history.stepBack.2.isSome = zipper.undo.2 ∧
      history.stepBack.1.Mirrors same (history.stepBack.2.getD live) zipper.undo.1 := by
  obtain ⟨limit, taken, undone⟩ := history
  obtain ⟨past, here, future⟩ := zipper
  obtain ⟨room, before, after⟩ := rests
  cases before with
  | @cons newest _ older _ first rest =>
      cases rest with
      | nil => exact ⟨rfl, present, .inl ⟨room, .cons first .nil, after⟩⟩
      | @cons previous content _ past next rest =>
          refine ⟨rfl, next, .inl ⟨?_, .cons next rest, .cons first after⟩⟩
          simp only [Zipper.undo, stepBack, List.length_cons] at room ⊢
          omega

theorem undo_mirrors (alike : Alike same) {history : History α} {live : α} {zipper : Zipper α}
    (mirrors : history.Mirrors same live zipper) :
    (history.undo same (some live)).2.isSome = zipper.undo.2 ∧
      (history.undo same (some live)).1.Mirrors same
        ((history.undo same (some live)).2.getD live) zipper.undo.1 := by
  rcases mirrors.place with rests | ahead
  · have held := (rests_holds alike rests live).mpr (alike.symm _ _ mirrors.present)
    have level : history.isBehind same live = false := by simp [isBehind, held]
    simpa [History.undo, level] using step_back_mirrors rests mirrors.present
  · cases list : history.taken with
    | nil =>
        have past := ahead.past
        have none : zipper.past = [] := by
          simpa [Hold, list, List.forall₂_nil_left_iff] using past
        simpa [History.undo, isBehind, stepBack, list, Zipper.undo, none] using mirrors
    | cons newest older =>
        -- The tip is taken first; from then on the history rests on it.
        have behind : history.isBehind same live = true := by
          simp [isBehind, list, ahead.undone, ahead.moved]
        have rests := capture_rests alike (some tipDescription) mirrors
        have whole : { zipper with future := [] } = zipper := by rw [← ahead.future]
        rw [whole] at rests
        simpa [History.undo, behind] using step_back_mirrors rests mirrors.present

theorem redo_mirrors {history : History α} {live : α} {zipper : Zipper α}
    (mirrors : history.Mirrors same live zipper) :
    history.redo.2.isSome = zipper.redo.2 ∧
      history.redo.1.Mirrors same (history.redo.2.getD live) zipper.redo.1 := by
  rcases mirrors.place with rests | ahead
  · have present := mirrors.present
    obtain ⟨limit, taken, undone⟩ := history
    obtain ⟨past, here, future⟩ := zipper
    obtain ⟨room, before, after⟩ := rests
    cases after with
    | nil => exact ⟨rfl, present, .inl ⟨room, before, .nil⟩⟩
    | cons next rest =>
        refine ⟨rfl, next, .inl ⟨?_, .cons next before, rest⟩⟩
        simp only [Zipper.redo, redo, List.length_cons] at room ⊢
        omega
  · simpa [History.redo, ahead.undone, Zipper.redo, ahead.future] using mirrors

end History
end Chartwright
