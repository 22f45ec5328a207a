/-!
Edit distance: the least number of single-character insertions, deletions and substitutions that
turn one text into another. The table of distances between initial parts is computed row by row.
-/

namespace Chartwright.Text

/-- The row below `above`, whose cells are the distances from the previous initial part of the
source; `left` is the cell already computed. -/
def nextCells (source : Char) (left : Nat) : List Nat → List Char → List Nat
  | diagonal :: up :: above, target :: rest =>
    let cell := min (min (up + 1) (left + 1)) (diagonal + if source = target then 0 else 1)
    cell :: nextCells source cell (up :: above) rest
  | _, _ => []

def nextRow (target : List Char) (row : List Nat) (source : Char) : List Nat :=
  let first := row.headD 0 + 1
  first :: nextCells source first row target

def firstRow (target : List Char) : List Nat := List.range (target.length + 1)

def editDistance (source target : List Char) : Nat :=
  (source.foldl (nextRow target) (firstRow target)).getLastD 0

end Chartwright.Text
