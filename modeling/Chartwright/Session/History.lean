/-!
Undo history: snapshots with a cursor. Taking a snapshot drops those that were undone, and the
oldest ones beyond a limit. What the cursor already holds is not taken again, so undo never steps
between two equal snapshots.
-/

namespace Chartwright

structure Snapshot (α : Type) where
  content : α
  description : Option String

structure History (α : Type) where
  limit : Nat
  taken : List (Snapshot α) := []
  undone : List (Snapshot α) := []

inductive HistoryError where
  | noRoom
  deriving DecidableEq, Repr

def HistoryError.message : HistoryError → String
  | .noRoom => "history limit must be at least 1"

namespace History
variable {α : Type}

def maximum : Nat := 50

def ofLimit (limit : Int) : Except HistoryError (History α) :=
  if limit < 1 then .error .noRoom else .ok { limit := min limit.toNat maximum }

/-- The place of the cursor, counted from the oldest snapshot; one before it if there is none. -/
def cursor (history : History α) : Int := (history.taken.length : Int) - 1

def size (history : History α) : Nat := history.taken.length + history.undone.length

def toList (history : History α) : List (Snapshot α) := history.taken.reverse ++ history.undone

def canUndo (history : History α) : Bool := 1 < history.taken.length

def canRedo (history : History α) : Bool := !history.undone.isEmpty

def holds (same : α → α → Bool) (content : α) (history : History α) : Bool :=
  history.taken.head?.any fun snapshot => same snapshot.content content

def isBehind (same : α → α → Bool) (live : α) (history : History α) : Bool :=
  !history.taken.isEmpty && history.undone.isEmpty && !history.holds same live

def branched (history : History α) : History α := { history with undone := [] }

def capture (same : α → α → Bool) (content : α) (description : Option String)
    (history : History α) : History α × Snapshot α :=
  let fresh : Snapshot α := ⟨content, description⟩
  match history.taken with
  | [] => ({ history with taken := [fresh], undone := [] }, fresh)
  | newest :: older =>
    if same newest.content content then ({ history with undone := [] }, newest)
    else
      ({ history with taken := (fresh :: newest :: older).take history.limit, undone := [] }, fresh)

def tipDescription : String := "Current state"

def stepBack (history : History α) : History α × Option α :=
  match history.taken with
  | newest :: previous :: older =>
    ({ history with taken := previous :: older, undone := newest :: history.undone },
      some previous.content)
  | _ => (history, none)

/-- One step back. A live content that has moved on from the newest snapshot is taken first. -/
def undo (same : α → α → Bool) (live : Option α) (history : History α) :
    History α × Option α :=
  match live with
  | some content =>
    if history.isBehind same content then
      (history.capture same content (some tipDescription)).1.stepBack
    else history.stepBack
  | none => history.stepBack

def redo (history : History α) : History α × Option α :=
  match history.undone with
  | next :: rest =>
    ({ history with taken := next :: history.taken, undone := rest }, some next.content)
  | [] => (history, none)

def clear (history : History α) : History α := { history with taken := [], undone := [] }

end History
end Chartwright
