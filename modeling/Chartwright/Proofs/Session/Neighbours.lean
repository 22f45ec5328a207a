import Chartwright.Proofs.Session.Flags
import Mathlib.Data.List.Chain

/-!
What an undo history keeps true whatever is done with it, by callers of any kind. It holds no more
snapshots than there is room for, its cursor is on one of them if there is any, and no two that
follow each other are equal. So a step through it leads to another content than that it left, and
what was taken is under the cursor.
-/

namespace Chartwright
namespace History
variable {α : Type} {same : α → α → Bool}

def current? (history : History α) : Option (Snapshot α) :=
  if history.cursor < 0 then none else history.toList[history.cursor.toNat]?

/-- What can be done with a history. -/
inductive Act (α : Type) where
  | capture (content : α) (description : Option String)
  | undo (live : Option α)
  | redo
  | clear

def Act.perform (same : α → α → Bool) (history : History α) : Act α → History α
  | .capture content description => (history.capture same content description).1
  | .undo live => (history.undo same live).1
  | .redo => history.redo.1
  | .clear => history.clear

def after (same : α → α → Bool) (history : History α) : List (Act α) → History α
  | [] => history
  | act :: rest => after same (act.perform same history) rest

def Differ (same : α → α → Bool) (older newer : Snapshot α) : Prop :=
  same older.content newer.content = false

/-- What stays true of a history. Snapshots are undone only from others that are taken, so there is
always one to come back to. -/
structure Sound (same : α → α → Bool) (history : History α) : Prop where
  room : 0 < history.limit
  fits : history.size ≤ history.limit
  rooted : history.taken = [] → history.undone = []
  apart : history.toList.IsChain (Differ same)

@[simp] theorem to_list_length (history : History α) : history.toList.length = history.size := by
  simp [toList, size]

theorem current_head (history : History α) : history.current? = history.taken.head? := by
  unfold current? cursor toList
  cases list : history.taken with
  | nil => simp
  | cons newest older =>
      have inside : ¬(older.length : Int) < 0 := by omega
      simp [inside]

theorem empty_sound {limit : Nat} (positive : 0 < limit) : Sound same ({ limit } : History α) :=
  ⟨positive, Nat.zero_le _, fun _ => rfl, by simp [toList]⟩

/-! Every step keeps the snapshots sound. -/

theorem capture_sound {history : History α} (content : α) (description : Option String)
    (sound : history.Sound same) : (history.capture same content description).1.Sound same := by
  obtain ⟨room, fits, _, apart⟩ := sound
  refine ⟨by simpa using room, by simpa using capture_size content description room fits, ?_, ?_⟩
  · unfold capture
    cases history.taken with
    | nil => simp
    | cons newest older => cases known : same newest.content content <;> simp [known]
  · unfold capture
    cases list : history.taken with
    | nil => simp [toList]
    | cons newest older =>
        rw [toList, list] at apart
        have before := apart.left_of_append
        cases known : same newest.content content with
        | true => simpa [toList, known, list] using before
        | false =>
            -- The new snapshot follows the newest one, from which it differs. What the limit
            -- drops is at the other end.
            have longer : (⟨content, description⟩ :: newest :: older).reverse.IsChain
                (Differ same) := by
              rw [List.isChain_reverse, List.isChain_cons_cons]
              exact ⟨known, List.isChain_reverse.mp before⟩
            have kept := (List.isChain_reverse.mp longer).take history.limit
            simpa [toList, known] using List.isChain_reverse.mpr kept

theorem step_back_list (history : History α) : history.stepBack.1.toList = history.toList := by
  obtain ⟨limit, taken, undone⟩ := history
  rcases taken with _ | ⟨newest, _ | ⟨previous, older⟩⟩ <;> simp [stepBack, toList]

theorem redo_list (history : History α) : history.redo.1.toList = history.toList := by
  obtain ⟨limit, taken, undone⟩ := history
  cases undone <;> simp [redo, toList]

theorem step_back_sound {history : History α} (sound : history.Sound same) :
    history.stepBack.1.Sound same := by
  obtain ⟨room, fits, rooted, apart⟩ := sound
  refine ⟨by simpa using room, by simpa [step_back_size] using fits, ?_,
    by simpa [step_back_list] using apart⟩
  obtain ⟨limit, taken, undone⟩ := history
  rcases taken with _ | ⟨newest, _ | ⟨previous, older⟩⟩
  · exact rooted
  · exact rooted
  · intro empty
    cases empty

theorem undo_sound {history : History α} (live : Option α) (sound : history.Sound same) :
    (history.undo same live).1.Sound same := by
  unfold undo
  cases live with
  | none => exact step_back_sound sound
  | some content =>
      by_cases behind : history.isBehind same content = true
      · simp only [behind, ↓reduceIte]
        exact step_back_sound (capture_sound content _ sound)
      · simp only [behind, Bool.false_eq_true, ↓reduceIte]
        exact step_back_sound sound

theorem redo_sound {history : History α} (sound : history.Sound same) :
    history.redo.1.Sound same := by
  obtain ⟨room, fits, rooted, apart⟩ := sound
  refine ⟨by simpa using room, by simpa [redo_size] using fits, ?_,
    by simpa [redo_list] using apart⟩
  obtain ⟨limit, taken, undone⟩ := history
  cases undone with
  | nil => exact fun _ => rfl
  | cons next rest =>
      intro empty
      cases empty

theorem act_sound {history : History α} (act : Act α) (sound : history.Sound same) :
    (act.perform same history).Sound same := by
  cases act with
  | capture content description => exact capture_sound content description sound
  | undo live => exact undo_sound live sound
  | redo => exact redo_sound sound
  | clear => exact empty_sound sound.room

theorem act_limit (act : Act α) (history : History α) :
    (act.perform same history).limit = history.limit := by
  cases act with
  | capture content description => exact capture_limit content description history
  | undo live => exact undo_limit live history
  | redo => exact redo_limit history
  | clear => rfl

theorem after_sound {history : History α} (acts : List (Act α)) (sound : history.Sound same) :
    (history.after same acts).Sound same ∧ (history.after same acts).limit = history.limit := by
  induction acts generalizing history with
  | nil => exact ⟨sound, rfl⟩
  | cons act rest ih =>
      obtain ⟨kept, limit⟩ := ih (act_sound act sound)
      exact ⟨kept, limit.trans (act_limit act history)⟩

/-! Where a step leads. -/

/-- The cursor is on one of the snapshots if there is any. -/
theorem cursor_inside {history : History α} (sound : history.Sound same) :
    (history.cursor = -1 ↔ history.toList = []) ∧
      (history.toList ≠ [] → 0 ≤ history.cursor ∧ history.cursor < history.toList.length) := by
  have rooted := sound.rooted
  rw [to_list_length]
  unfold cursor size toList
  cases list : history.taken with
  | nil => simp [rooted list]
  | cons newest older =>
      simp only [List.length_cons]
      refine ⟨⟨fun before => by omega, fun none => by simp at none⟩, fun _ => by omega⟩

theorem capture_current (alike : Alike same) {history : History α} (content : α)
    (description : Option String) (room : 0 < history.limit) :
    ∃ snapshot, (history.capture same content description).1.current? = some snapshot ∧
      same snapshot.content content = true := by
  simp only [current_head]
  unfold capture
  cases list : history.taken with
  | nil => exact ⟨_, rfl, alike.refl content⟩
  | cons newest older =>
      cases known : same newest.content content with
      | true => exact ⟨newest, by simp [known], known⟩
      | false =>
          have head : ((⟨content, description⟩ :: newest :: older).take history.limit).head? =
              some (⟨content, description⟩ : Snapshot α) := by
            rw [List.head?_take, if_neg (by omega)]
            rfl
          exact ⟨_, by simpa [known] using head, alike.refl content⟩

theorem capture_not_redone (content : α) (description : Option String) (history : History α) :
    (history.capture same content description).1.canRedo = false := by
  unfold capture
  cases history.taken with
  | nil => rfl
  | cons newest older => cases known : same newest.content content <;> simp [known, canRedo]

theorem step_back_differs {history : History α} {content : α} (sound : history.Sound same)
    (led : history.stepBack.2 = some content) :
    ∃ before, history.current? = some before ∧ same content before.content = false := by
  have apart := sound.apart
  rw [current_head]
  obtain ⟨limit, taken, undone⟩ := history
  rcases taken with _ | ⟨newest, _ | ⟨previous, older⟩⟩
  · cases led
  · cases led
  · cases led
    have inside : (older.reverse ++ previous :: newest :: undone).IsChain (Differ same) := by
      simpa [toList] using apart
    exact ⟨newest, rfl, (List.isChain_append_cons_cons.mp inside).2.1⟩

theorem redo_differs {history : History α} {content : α} (sound : history.Sound same)
    (led : history.redo.2 = some content) :
    ∃ before, history.current? = some before ∧ same before.content content = false := by
  have apart := sound.apart
  have rooted := sound.rooted
  rw [current_head]
  obtain ⟨limit, taken, undone⟩ := history
  cases undone with
  | nil => cases led
  | cons next rest =>
      cases led
      cases taken with
      | nil => cases rooted rfl
      | cons newest older =>
          have inside : (older.reverse ++ newest :: next :: rest).IsChain (Differ same) := by
            simpa [toList] using apart
          exact ⟨newest, rfl, (List.isChain_append_cons_cons.mp inside).2.1⟩

-- The tip is under the cursor when the step back is made, so the step leads away from it.
theorem undo_tip_differs (alike : Alike same) {history : History α} {live content : α}
    (sound : history.Sound same) (behind : history.isBehind same live = true)
    (led : (history.undo same (some live)).2 = some content) : same content live = false := by
  simp only [undo, behind, ↓reduceIte] at led
  obtain ⟨before, here, apart⟩ :=
    step_back_differs (capture_sound live (some tipDescription) sound) led
  obtain ⟨tip, there, equal⟩ := capture_current alike live (some tipDescription) sound.room
  cases here.symm.trans there
  rw [Bool.eq_false_iff] at apart ⊢
  intro returned
  exact apart (alike.trans _ _ _ returned (alike.symm _ _ equal))

/-- Whether an undo from a live content records it first. -/
def RecordsTip (same : α → α → Bool) (live : Option α) (history : History α) : Prop :=
  ∃ content, live = some content ∧ history.isBehind same content = true

theorem undo_plain_differs {history : History α} {live : Option α} {content : α}
    (sound : history.Sound same) (plain : ¬history.RecordsTip same live)
    (led : (history.undo same live).2 = some content) :
    ∃ before, history.current? = some before ∧ same content before.content = false := by
  cases live with
  | none => exact step_back_differs sound led
  | some tip =>
      have level : history.isBehind same tip = false := by
        rw [Bool.eq_false_iff]
        exact fun behind => plain ⟨tip, rfl, behind⟩
      rw [undo_level level] at led
      exact step_back_differs sound led

/-- What whoever steps through a history can rely on. -/
structure Reliable (same : α → α → Bool) (room : Int) (history : History α) : Prop where
  room : (history.toList.length : Int) ≤ room
  empty : history.cursor = -1 ↔ history.toList = []
  inside : history.toList ≠ [] → 0 ≤ history.cursor ∧ history.cursor < history.toList.length
  apart : history.toList.IsChain (Differ same)
  redone : ∀ content, history.redo.2 = some content →
    ∃ before, history.current? = some before ∧ same before.content content = false
  undone : ∀ live content, ¬history.RecordsTip same live →
    (history.undo same live).2 = some content →
      ∃ before, history.current? = some before ∧ same content before.content = false
  tipped : ∀ live content, history.RecordsTip same (some live) →
    (history.undo same (some live)).2 = some content → same content live = false
  captured : ∀ content description,
    (∃ snapshot, (history.capture same content description).1.current? = some snapshot ∧
      same snapshot.content content = true) ∧
    (history.capture same content description).1.canRedo = false

theorem sound_reliable (alike : Alike same) {history : History α} (sound : history.Sound same) :
    history.Reliable same history.limit where
  room := by
    rw [to_list_length]
    exact Int.ofNat_le.mpr sound.fits
  empty := (cursor_inside sound).1
  inside := (cursor_inside sound).2
  apart := sound.apart
  redone _ led := redo_differs sound led
  undone _ _ plain led := undo_plain_differs sound plain led
  tipped _ _ records led := by
    obtain ⟨_, ⟨⟩, behind⟩ := records
    exact undo_tip_differs alike sound behind led
  captured content description :=
    ⟨capture_current alike content description sound.room,
      capture_not_redone content description history⟩

theorem of_limit_opens {limit : Int} (positive : 1 ≤ limit) :
    (ofLimit limit : Except HistoryError (History α)) =
      .ok { limit := min limit.toNat maximum } := by
  rw [ofLimit, if_neg (by omega)]

/-- A history of charts opens with any positive limit, and is reliable after whatever is done with
it: what is captured, and from which chart an undo comes, is up to the caller. -/
theorem snapshots_stay_apart (limit : Int) (positive : 1 ≤ limit) (acts : List (Act Chart)) :
    ∃ start : History Chart, ofLimit limit = .ok start ∧ start.toList = [] ∧
      (start.after Chart.same acts).Reliable Chart.same (min limit 50) := by
  refine ⟨_, of_limit_opens positive, rfl, ?_⟩
  have room : 0 < min limit.toNat maximum := by
    unfold maximum
    omega
  have opened : Sound Chart.same ({ limit := min limit.toNat maximum } : History Chart) :=
    empty_sound room
  obtain ⟨sound, size⟩ := after_sound acts opened
  have reliable := sound_reliable same_chart_alike sound
  have bound : ((min limit.toNat maximum : Nat) : Int) = min limit 50 := by
    unfold maximum
    omega
  rwa [size, bound] at reliable

def entitled (title : String) : Chart :=
  { state := { title := some (.checked title) }, spec := [("title", .text title)] }

/-- Three charts for two places, with a step back from one that was not captured. -/
def crowded : List (Act Chart) :=
  [.capture (entitled "Sales") none, .capture (entitled "Profit") none,
   .undo (some (entitled "Region")), .redo, .capture (entitled "Region") none]

theorem crowded_stay_apart :
    (1 : Int) ≤ 2 ∧ ∃ start : History Chart, ofLimit 2 = .ok start ∧ start.toList = [] ∧
      (start.after Chart.same crowded).Reliable Chart.same (min 2 50) ∧
      (start.after Chart.same crowded).toList.map (·.description) =
        [none, some tipDescription] := by
  obtain ⟨start, opens, empty, reliable⟩ := snapshots_stay_apart 2 (by decide) crowded
  refine ⟨by decide, start, opens, empty, reliable, ?_⟩
  cases opens
  decide +kernel

end History
end Chartwright
