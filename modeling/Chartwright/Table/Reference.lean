import Chartwright.Text.EditDistance
import Chartwright.Text.Words

/-!
References to fields as people type them. A reference is resolved by the first of five ways that
finds a field: the name itself, the name up to case, the name up to case and separators, a name that
contains the reference, and the name at the least edit distance if that is small enough.
-/

namespace Chartwright
namespace Reference
open Text

def isSeparator (c : Char) : Bool := isBlank c || c == '_' || c == '-'

def bare (name : String) : List Char := (lower name.toList).filter fun c => !isSeparator c

def lowered (name : String) : List Char := lower name.toList

def nearest? (key : List Char) : List String → Option (String × Nat)
  | [] => none
  | name :: rest =>
    let here := editDistance key (lowered name)
    match nearest? key rest with
    | some (other, distance) => some (if distance < here then (other, distance) else (name, here))
    | none => some (name, here)

/-- The distance up to which a misspelt name is understood. -/
def usualLimit : Int := 3

def resolve? (reference : String) (names : List String) (limit : Int := usualLimit) :
    Option String :=
  if reference.isEmpty then none
  else
    let names := names.filter fun name => !name.isEmpty
    let key := lower (trim reference.toList)
    let target := bare reference
    let close := (nearest? key names).bind fun (name, distance) =>
      if (distance : Int) ≤ limit then some name else none
    if names.contains reference then some reference
    else
      (names.find? fun name => lowered name = key) <|>
        if target.isEmpty then none
        else
          (names.find? fun name => bare name = target) <|>
            (names.find? fun name => occursIn target (bare name)) <|> close

end Reference
end Chartwright
