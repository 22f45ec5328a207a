import Chartwright.Number.Binary64

/-!
JSON documents as chart specifications, data rows and model replies hold them: integers of any
size are kept apart from floating-point numbers, and an object keeps the order of its members.
Equality of documents compares numbers by value, takes what is no number for equal to its copies
only, and ignores the order of members.
-/

namespace Chartwright

inductive Json where
  | null
  | bool (value : Bool)
  | int (value : Int)
  | float (value : Binary64)
  | text (value : String)
  | list (items : List Json)
  | object (members : List (String × Json))
  deriving Inhabited

abbrev Members := List (String × Json)

namespace Json

inductive Compound where
  | list
  | object
  deriving DecidableEq, Repr

def Compound.name : Compound → String
  | .list => "list"
  | .object => "dict"

/-- What is said of such a value where only a simple one can stand. -/
def Compound.misuse (kind : Compound) : String := "unhashable type: '" ++ kind.name ++ "'"

def shapeName : Json → String
  | .null => "NoneType"
  | .bool _ => "bool"
  | .int _ => "int"
  | .float _ => "float"
  | .text _ => "str"
  | .list _ => Compound.list.name
  | .object _ => Compound.object.name

def compound? : Json → Option Compound
  | .list _ => some .list
  | .object _ => some .object
  | _ => none

def number? : Json → Option Binary64
  | .bool value => some (.exact (if value then 1 else 0))
  | .int value => some (.exact value)
  | .float value => some value
  | _ => none

def asObject? : Json → Option Members
  | .object members => some members
  | _ => none

def asText? : Json → Option String
  | .text value => some value
  | _ => none

def asList? : Json → Option (List Json)
  | .list items => some items
  | _ => none

def isNull : Json → Bool
  | .null => true
  | _ => false

def isNumber : Json → Bool
  | .int _ | .float _ => true
  | _ => false

def isVacant : Json → Bool
  | .null => true
  | .bool value => !value
  | .int value => value == 0
  | .float value => value.same (.zero false)
  | .text value => value.isEmpty
  | .list items => items.isEmpty
  | .object members => members.isEmpty

mutual

def same : Json → Json → Bool
  | .null, .null => true
  | .text a, .text b => a == b
  | .list xs, .list ys => sameItems xs ys
  | .object xs, .object ys =>
    sameMembers [] xs ys && ys.all fun (name, _) => (xs.lookup name).isSome
  | .bool a, y => sameNumber (.exact (if a then 1 else 0)) y
  | .int a, y => sameNumber (.exact a) y
  | .float a, y => sameNumber a y
  | _, _ => false

def sameItems : List Json → List Json → Bool
  | [], [] => true
  | x :: xs, y :: ys => same x y && sameItems xs ys
  | _, _ => false

/-- Whether every member on the left has an equal one of that name on the right, apart from the
names that were met before. -/
def sameMembers : List String → List (String × Json) → List (String × Json) → Bool
  | _, [], _ => true
  | met, (name, x) :: xs, ys =>
    (met.contains name ||
      match ys.lookup name with
      | some y => same x y
      | none => false) && sameMembers (name :: met) xs ys

def sameNumber (x : Binary64) (y : Json) : Bool :=
  match y.number? with
  | some y => x.coincides y
  | none => false

end

mutual

def isDeeper (limit : Nat) : Json → Bool
  | .list items => areDeeper limit items
  | .object entries => membersDeeper limit entries
  | _ => false

def areDeeper (limit : Nat) : List Json → Bool
  | [] => false
  | item :: rest => limit == 0 || isDeeper (limit - 1) item || areDeeper limit rest

def membersDeeper (limit : Nat) : List (String × Json) → Bool
  | [] => false
  | (_, value) :: rest => limit == 0 || isDeeper (limit - 1) value || membersDeeper limit rest

end

end Json

namespace Members

/-- The member of a name; `null` if there is none. -/
def getD (members : Members) (name : String) : Json := (members.lookup name).getD .null

def has (members : Members) (name : String) : Bool := (members.lookup name).isSome

/-- Gives a member a value, in its place if it is there and at the end otherwise. -/
def set (members : Members) (name : String) (value : Json) : Members :=
  match members with
  | [] => [(name, value)]
  | (other, old) :: rest =>
    if other = name then (name, value) :: rest else (other, old) :: set rest name value

def erase (members : Members) (name : String) : Members :=
  members.filter fun member => member.1 != name

end Members
end Chartwright
