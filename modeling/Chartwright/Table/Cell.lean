import Chartwright.Calendar.Reading
import Chartwright.Json.Printer

/-!
Cells and rows of a data table. A cell holds a value of a document, a native date, or a list or a
record of cells; a row is a record of named cells, or something else that is counted but has no
columns.
-/

namespace Chartwright

inductive Cell where
  | value (document : Json)
  | date (date : Date)
  | moment (moment : Moment)
  | list (items : List Cell)
  | record (cells : List (String × Cell))

instance : Inhabited Cell := ⟨.value .null⟩

inductive Row where
  | record (cells : List (String × Cell))
  | stray

/-- Why the values of a column could not be looked at: an integer beyond all floating-point
numbers stands where a number is to be tested. -/
inductive TableError where
  | integerTooLarge
  deriving DecidableEq, Repr

def TableError.message : TableError → String
  | .integerTooLarge => "int too large to convert to float"

namespace Cell

def isNull : Cell → Bool
  | .value .null => true
  | .value (.float x) => x.isNan
  | _ => false

/-- The number in a cell, if it is a finite one. Truth values are no numbers. -/
def finite? : Cell → Except TableError (Option Binary64)
  | .value (.int n) =>
    match Binary64.ofInt? n with
    | some x => .ok (some x)
    | none => .error .integerTooLarge
  | .value (.float x) => .ok (if x.isFinite then some x else none)
  | _ => .ok none

def isDate : Cell → Bool
  | .date _ | .moment _ => true
  | _ => false

def readsAsDate : Cell → Bool
  | .value (.text s) => Calendar.readsAsDate s.toList
  | .date _ | .moment _ => true
  | _ => false

def call (name : String) (parts : List String) : String :=
  name ++ "(" ++ ", ".intercalate parts ++ ")"

/-- A distance from universal time as it is written within a list or a record: whole days, and
seconds that are never negative. -/
def offsetLiteral (offset : Int) : String :=
  if offset = 0 then "datetime.timezone.utc"
  else
    let seconds := "seconds=" ++ toString (offset % 86400)
    let parts := if offset < 0 then ["days=-1", seconds] else [seconds]
    call "datetime.timezone" [call "datetime.timedelta" parts]

def momentLiteral (m : Moment) : String :=
  call "datetime.datetime" (m.parts.map toString ++
    (m.offset.map fun offset => "tzinfo=" ++ offsetLiteral offset).toList)

mutual

def literal : Cell → String
  | .value document => document.literal
  | .date d => call "datetime.date" (d.parts.map toString)
  | .moment m => momentLiteral m
  | .list items => "[" ++ ", ".intercalate (literalItems items) ++ "]"
  | .record cells => "\x7b" ++ ", ".intercalate (literalCells cells) ++ "\x7d"

def literalItems : List Cell → List String
  | [] => []
  | item :: rest => literal item :: literalItems rest

def literalCells : List (String × Cell) → List String
  | [] => []
  | (name, cell) :: rest =>
    (Json.literalText name ++ ": " ++ literal cell) :: literalCells rest

end

def display : Cell → String
  | .value document => document.display
  | .date d => d.text
  | .moment m => m.text
  | cell => cell.literal

end Cell

def Row.ofJson : Json → Row
  | .object entries => .record (entries.map fun (name, value) => (name, .value value))
  | _ => .stray

end Chartwright
