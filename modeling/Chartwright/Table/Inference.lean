import Chartwright.Table.Cell
import Chartwright.Table.Field

/-!
Inference of fields from rows. Only the first rows are looked at. A column is quantitative or
temporal when more than three fifths of its values are finite numbers or dates, ordinal when it has
few distinct values for its length, and nominal otherwise.
-/

namespace Chartwright
namespace Table

def sampleSize : Nat := 100
def ordinalLimit : Nat := 20
def topLimit : Nat := 10

def numbers (cells : List Cell) : Except TableError (List Binary64) :=
  match cells with
  | [] => .ok []
  | cell :: rest => do
    let here ← cell.finite?
    let others ← numbers rest
    return here.toList ++ others

def present (cells : List Cell) : List Cell := cells.filter fun cell => !cell.isNull

def distinct (labels : List String) : List String := labels.eraseDups

def isMost (part whole : Nat) : Bool := 3 * whole < 5 * part

def kindOf (cells : List Cell) : Except TableError FieldKind := do
  let cells := present cells
  if cells.isEmpty then return .nominal
  let finite ← numbers cells
  if isMost finite.length cells.length then return .quantitative
  if isMost (cells.countP Cell.readsAsDate) cells.length then return .temporal
  let labels := distinct (cells.map Cell.display)
  if labels.length ≤ ordinalLimit ∧ 2 * labels.length < cells.length then return .ordinal
  return .nominal

def least? : List Binary64 → Option Binary64
  | [] => none
  | x :: rest => some (rest.foldl (fun best y => if y.less best then y else best) x)

def greatest? : List Binary64 → Option Binary64
  | [] => none
  | x :: rest => some (rest.foldl (fun best y => if best.less y then y else best) x)

def tally (labels : List String) : List TopValue :=
  (distinct labels).map fun label => { value := label, count := labels.count label }

def mostFrequent (labels : List String) : List TopValue :=
  ((tally labels).mergeSort fun a b => b.count ≤ a.count).take topLimit

def statsOf (cells : List Cell) (kind : FieldKind) : Except TableError FieldStats := do
  let valid := present cells
  let labels := valid.map Cell.display
  let counts : FieldStats :=
    { nullCount := (cells.length : Int) - valid.length, uniqueCount := (distinct labels).length }
  match kind with
  | .quantitative =>
    let finite ← numbers valid
    return { counts with min := least? finite, max := greatest? finite }
  | .nominal | .ordinal =>
    return { counts with topValues := if labels.isEmpty then none else some (mostFrequent labels) }
  | .temporal => return counts

/-- How a table takes in a column: a cell for each record, none where the record has no such name.
-/
abbrev Coercion := List (Option Cell) → Except TableError (List Cell)

/-- Whether a column keeps its values as they are: it holds something else than numbers and gaps,
or integers that do not fit into one type of 64 bits. What becomes of such integers is not
documented, so the statements on fields are made for other coercions as well. -/
def keepsValues (negative wide : Bool) : List (Option Cell) → Bool
  | [] => false
  | none :: rest | some (.value .null) :: rest | some (.value (.float _)) :: rest =>
    keepsValues negative wide rest
  | some (.value (.int n)) :: rest =>
    let negative := negative || n < 0
    let wide := wide || Int.pow 2 63 ≤ n
    n < -Int.pow 2 63 || Int.pow 2 64 ≤ n || (negative && wide) || keepsValues negative wide rest
  | some _ :: _ => true

def asFloat : Option Cell → Except TableError Cell
  | some (.value (.int n)) =>
    match Binary64.ofInt? n with
    | some x => .ok (.value (.float x))
    | none => .error .integerTooLarge
  | some cell => .ok cell
  | none => .ok (.value .null)

def isFloating (column : List (Option Cell)) : Bool :=
  column.any fun
    | none | some (.value .null) | some (.value (.float _)) => true
    | _ => false

/-- Turns the integers of a column into floating-point numbers if a test says so. -/
def floatsIf (test : List (Option Cell) → Bool) : Coercion := fun column =>
  if test column then column.mapM asFloat
  else .ok (column.map fun cell => cell.getD (.value .null))

/-- A column of integers and floating-point numbers is one of floating-point numbers alone when it
has one of these or a gap. -/
def settled : Coercion :=
  floatsIf fun column => isFloating column && !keepsValues false false column

def sample (rows : List Row) : List (List (String × Cell)) :=
  (rows.take sampleSize).filterMap fun
    | .record cells => some cells
    | .stray => none

def columnNames (records : List (List (String × Cell))) : List String :=
  (records.flatMap fun cells => cells.map (·.1)).eraseDups

def columnOf (records : List (List (String × Cell))) (name : String) : List (Option Cell) :=
  records.map fun cells => cells.lookup name

def fieldOf (coerce : Coercion) (records : List (List (String × Cell))) (name : String) :
    Except TableError DataField := do
  let cells ← coerce (columnOf records name)
  let kind ← kindOf cells
  let stats ← statsOf cells kind
  return { name, kind, stats }

def inferFieldsBy (coerce : Coercion) (rows : List Row) : Except TableError (List DataField) :=
  let records := sample rows
  (columnNames records).mapM (fieldOf coerce records)

def inferFields (rows : List Row) : Except TableError (List DataField) := inferFieldsBy settled rows

end Table
end Chartwright
