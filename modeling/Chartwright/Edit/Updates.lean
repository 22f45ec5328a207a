import Chartwright.Json.Basic

/-!
Updates of a builder state as they are handed in: an object, or a sequence of pairs of a name and a
value. Lists are sequences of their items, texts of their characters and objects of their names.
-/

namespace Chartwright

inductive UpdatesError where
  | noSequence (shape : String)
  | noPair (place : Nat)
  | wrongSize (place size : Nat)
  | compoundName (kind : Json.Compound)
  deriving DecidableEq, Repr

def UpdatesError.message : UpdatesError → String
  | .noSequence shape => s!"'{shape}' object is not iterable"
  | .noPair place =>
    s!"cannot convert dictionary update sequence element #{place} to a sequence"
  | .wrongSize place size =>
    s!"dictionary update sequence element #{place} has length {size}; 2 is required"
  | .compoundName kind => kind.misuse

namespace Updates

def sequence? : Json → Option (List Json)
  | .text value => some (value.toList.map fun c => .text (String.singleton c))
  | .list items => some items
  | .object entries => some (entries.map fun (name, _) => .text name)
  | _ => none

def put (entries : Members) (name value : Json) : Except UpdatesError Members :=
  match name with
  | .text name => .ok (entries.set name value)
  | .list _ => .error (.compoundName .list)
  | .object _ => .error (.compoundName .object)
  | _ => .ok entries

/-- Adds pairs, the first of which has the given place. -/
def addPairs (entries : Members) (place : Nat) : List Json → Except UpdatesError Members
  | [] => .ok entries
  | item :: rest =>
    match sequence? item with
    | none => .error (.noPair place)
    | some [name, value] => do addPairs (← put entries name value) (place + 1) rest
    | some parts => .error (.wrongSize place parts.length)

def entries : Json → Except UpdatesError Members
  | .object entries => .ok entries
  | document =>
    match sequence? document with
    | some items => addPairs [] 0 items
    | none => .error (.noSequence document.shapeName)

end Updates
end Chartwright
