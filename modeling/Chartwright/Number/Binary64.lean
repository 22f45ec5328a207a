/-!
Binary floating-point numbers of double precision, in exact form. A finite number is a sign, a
significand and a power of two, so order, equality and rounding are integer arithmetic and every
statement about them can be proved. `ofRatio` rounds a quotient to the nearest number, a tie to the
even significand; all other ways to make a number go through it.
-/

namespace Chartwright

/-- A double-precision number. `finite negative significand exponent` stands for
`significand * 2 ^ exponent` with a sign, so both zeros are present. What is no number carries a
payload, which tells values of separate origin apart. -/
inductive Binary64 where
  | nan (payload : Nat)
  | infinite (negative : Bool)
  | finite (negative : Bool) (significand : Nat) (exponent : Int)
  deriving DecidableEq, Repr, Inhabited

namespace Binary64

def minExponent : Int := -1074

def maxExponent : Int := 971

def zero (negative : Bool) : Binary64 := .finite negative 0 minExponent

def scaled (numerator denominator : Nat) (exponent : Int) : Nat × Nat :=
  if exponent < 0 then (numerator * Nat.pow 2 (-exponent).toNat, denominator)
  else (numerator, denominator * Nat.pow 2 exponent.toNat)

def roundedQuotient (numerator denominator : Nat) : Nat :=
  let quotient := numerator / denominator
  let twice := 2 * (numerator % denominator)
  if twice < denominator then quotient
  else if denominator < twice then quotient + 1
  else quotient + quotient % 2

/-- The exponent at which a positive fraction has a significand of 53 bits, or the least exponent
if that is greater. -/
def exponentOf (numerator denominator : Nat) : Int :=
  let guess : Int := (numerator.log2 : Int) - denominator.log2 - 52
  let (top, bottom) := scaled numerator denominator guess
  let exact := if top < bottom * Nat.pow 2 52 then guess - 1 else guess
  max exact minExponent

/-- The number nearest to `numerator / denominator`. Rounding up may fill the significand, which
then moves to the next exponent. -/
def ofRatio (negative : Bool) (numerator denominator : Nat) : Binary64 :=
  if numerator = 0 ∨ denominator = 0 then zero negative
  else
    let exponent := exponentOf numerator denominator
    let (top, bottom) := scaled numerator denominator exponent
    let significand := roundedQuotient top bottom
    let (significand, exponent) :=
      if significand = Nat.pow 2 53 then (Nat.pow 2 52, exponent + 1) else (significand, exponent)
    if maxExponent < exponent then .infinite negative
    else .finite negative significand exponent

def ofInt (n : Int) : Binary64 := ofRatio (n < 0) n.natAbs 1

def ofInt? (n : Int) : Option Binary64 :=
  match ofInt n with
  | .finite negative significand exponent => some (.finite negative significand exponent)
  | _ => none

def isNan : Binary64 → Bool
  | .nan _ => true
  | _ => false

def isFinite : Binary64 → Bool
  | .finite .. => true
  | _ => false

def aligned (signA : Bool) (a : Nat) (expA : Int) (signB : Bool) (b : Nat) (expB : Int) :
    Int × Int :=
  let base := min expA expB
  let left : Int := (a * Nat.pow 2 (expA - base).toNat : Nat)
  let right : Int := (b * Nat.pow 2 (expB - base).toNat : Nat)
  (if signA then -left else left, if signB then -right else right)

/-- How two numbers compare by value; `none` if one is not a number. -/
def order? : Binary64 → Binary64 → Option Ordering
  | .nan _, _ => none
  | _, .nan _ => none
  | .infinite a, .infinite b => some (if a = b then .eq else if a then .lt else .gt)
  | .infinite a, .finite .. => some (if a then .lt else .gt)
  | .finite .., .infinite b => some (if b then .gt else .lt)
  | .finite signA a expA, .finite signB b expB =>
    let (left, right) := aligned signA a expA signB b expB
    some (compare left right)

def same (x y : Binary64) : Bool := order? x y == some .eq

def coincides (x y : Binary64) : Bool := x.same y || (x.isNan && x == y)

def less (x y : Binary64) : Bool := order? x y == some .lt

def atMost (x y : Binary64) : Bool := x.less y || x.same y

def exact (n : Int) : Binary64 := .finite (n < 0) n.natAbs 0

def toInt? : Binary64 → Option Int
  | .finite negative significand exponent =>
    let whole : Option Nat :=
      if 0 ≤ exponent then some (significand * Nat.pow 2 exponent.toNat)
      else
        let unit := Nat.pow 2 (-exponent).toNat
        if significand % unit = 0 then some (significand / unit) else none
    whole.map fun n => if negative then -(n : Int) else n
  | _ => none

def ratio (significand : Nat) (exponent : Int) : Nat × Nat :=
  if exponent < 0 then (significand, Nat.pow 2 (-exponent).toNat)
  else (significand * Nat.pow 2 exponent.toNat, 1)

def mul : Binary64 → Binary64 → Binary64
  | .finite signA a expA, .finite signB b expB =>
    let (top, bottom) := ratio (a * b) (expA + expB)
    ofRatio (signA != signB) top bottom
  | .finite signA a _, .infinite signB | .infinite signB, .finite signA a _ =>
    if a = 0 then .nan 0 else .infinite (signA != signB)
  | .infinite a, .infinite b => .infinite (a != b)
  | _, _ => .nan 0

def add : Binary64 → Binary64 → Binary64
  | .finite signA a expA, .finite signB b expB =>
    let (left, right) := aligned signA a expA signB b expB
    let sum := left + right
    if sum = 0 then zero (signA && signB)
    else
      let (top, bottom) := ratio sum.natAbs (min expA expB)
      ofRatio (sum < 0) top bottom
  | .infinite a, .infinite b => if a = b then .infinite a else .nan 0
  | .infinite a, .finite .. => .infinite a
  | .finite .., .infinite b => .infinite b
  | _, _ => .nan 0

def roundedTo (places : Nat) : Binary64 → Binary64
  | .finite negative significand exponent =>
    let (top, bottom) := ratio significand exponent
    ofRatio negative (roundedQuotient (top * Nat.pow 10 places) bottom) (Nat.pow 10 places)
  | x => x

end Binary64
end Chartwright
