import Chartwright.Number.Binary64

/-!
Shortest decimal digits. Among the decimals that read back as a given number the one with the
fewest digits is taken, and of those the nearest. The search goes through decimal grids of 1 to 17
digits and tests the two neighbours of the value on each; if a grid holds any decimal that reads
back, one of these two does.
-/

namespace Chartwright

structure Decimal where
  digits : Nat
  exponent : Int
  deriving DecidableEq, Repr

namespace Decimal

def digitCount (n : Nat) : Nat := (Nat.toDigits 10 n).length

/-- The `p` with `10 ^ (p - 1) ≤ top / bottom < 10 ^ p`, for a positive fraction. -/
def pointOf (top bottom : Nat) : Int :=
  if bottom ≤ top then digitCount (top / bottom)
  else 1 - (digitCount ((bottom - 1) / top) : Int)

def shifted (top bottom : Nat) (places : Int) : Nat × Nat :=
  if places < 0 then (top, bottom * Nat.pow 10 (-places).toNat)
  else (top * Nat.pow 10 places.toNat, bottom)

/-- The reals that round to `significand * 2 ^ exponent`, as multiples of a quarter of its last
binary place. The ends belong to the interval when the significand is even. -/
structure Interval where
  low : Nat
  high : Nat
  closed : Bool

def Interval.around (significand : Nat) (exponent : Int) : Interval where
  -- above a power of two numbers lie twice as far apart as below it
  low := 4 * significand -
    if significand = Nat.pow 2 52 ∧ Binary64.minExponent < exponent then 1 else 2
  high := 4 * significand + 2
  closed := significand % 2 = 0

def Interval.admits (range : Interval) (center value : Nat) : Bool :=
  if range.closed then range.low * center ≤ value && value ≤ range.high * center
  else range.low * center < value && value < range.high * center

def onGrid? (significand : Nat) (exponent point : Int) (count : Nat) : Option Decimal :=
  let (top, bottom) := Binary64.ratio significand exponent
  let places : Int := (count : Int) - point
  let (top, bottom) := shifted top bottom places
  let below := top / bottom
  let above := below + 1
  let range := Interval.around significand exponent
  let fits (candidate : Nat) : Bool :=
    0 < candidate && range.admits top (candidate * bottom * (4 * significand))
  let nearerBelow := 2 * (top - below * bottom) < bottom ∨
    (2 * (top - below * bottom) = bottom ∧ below % 2 = 0)
  let chosen : Option Nat :=
    match fits below, fits above with
    | true, true => some (if nearerBelow then below else above)
    | true, false => some below
    | false, true => some above
    | false, false => none
  chosen.map fun digits => { digits, exponent := -places }

def stripped : Nat → Decimal → Decimal
  | 0, d => d
  | fuel + 1, d =>
    if d.digits % 10 = 0 ∧ d.digits ≠ 0 then
      stripped fuel { digits := d.digits / 10, exponent := d.exponent + 1 }
    else d

def shortest (significand : Nat) (exponent : Int) : Decimal :=
  let (top, bottom) := Binary64.ratio significand exponent
  let point := pointOf top bottom
  let found := (List.range 17).findSome? fun n => onGrid? significand exponent point (n + 1)
  let decimal := found.getD { digits := significand, exponent := 0 }
  stripped (digitCount decimal.digits) decimal

end Decimal
end Chartwright
