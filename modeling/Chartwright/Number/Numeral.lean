import Chartwright.Number.Shortest
import Chartwright.Text.Words

/-!
Written numbers. `Binary64.text` writes a number with the fewest digits that read back, and the
readers accept the numerals of settings, commands and lenient input.
-/

namespace Chartwright

/-- How a number is laid out: the first and the last decimal exponent of its leading digit that
are written positionally. -/
structure Layout where
  firstPlain : Int
  lastPlain : Int

namespace Numeral

def plainRange : Layout := ⟨-4, 15⟩

def digitsOf (n : Nat) : List Char := Nat.toDigits 10 n

def positional (d : Decimal) : List Char :=
  let digits := digitsOf d.digits
  if 0 ≤ d.exponent then digits ++ List.replicate d.exponent.toNat '0' ++ ['.', '0']
  else
    let places := (-d.exponent).toNat
    let padded := List.replicate (places + 1 - digits.length) '0' ++ digits
    padded.take (padded.length - places) ++ '.' :: padded.drop (padded.length - places)

def withExponent (d : Decimal) (leading : Int) : List Char :=
  let digits := digitsOf d.digits
  let fraction := digits.drop 1
  let exponent := digitsOf leading.natAbs
  digits.take 1 ++ (if fraction.isEmpty then [] else '.' :: fraction) ++
    'e' :: (if leading < 0 then '-' else '+') ::
      (List.replicate (2 - exponent.length) '0' ++ exponent)

def magnitude (significand : Nat) (exponent : Int) : List Char :=
  if significand = 0 then ['0', '.', '0']
  else
    let d := Decimal.shortest significand exponent
    let leading : Int := d.exponent + Decimal.digitCount d.digits - 1
    if plainRange.firstPlain ≤ leading ∧ leading ≤ plainRange.lastPlain then positional d
    else withExponent d leading

end Numeral

structure NumberNames where
  nan : String
  infinity : String

def Binary64.textWith (names : NumberNames) : Binary64 → String
  | .nan _ => names.nan
  | .infinite negative => if negative then "-" ++ names.infinity else names.infinity
  | .finite negative significand exponent =>
    let digits := Numeral.magnitude significand exponent
    String.ofList (if negative then '-' :: digits else digits)

def Binary64.text (x : Binary64) : String := x.textWith { nan := "nan", infinity := "inf" }

namespace Numeral
open Text

def natOf (digits : List Char) : Nat :=
  digits.foldl (fun n c => 10 * n + (digitValue? c).getD 0) 0

/-- The number nearest to `digits * 10 ^ exponent`. Exponents far outside the range of finite
numbers are decided without computing the power. -/
def ofDecimal (negative : Bool) (digits : Nat) (exponent : Int) : Binary64 :=
  if digits = 0 then Binary64.zero negative
  else
    let leading : Int := exponent + Decimal.digitCount digits
    if 310 < leading then .infinite negative
    else if leading < -330 then Binary64.zero negative
    else
      let (top, bottom) := Decimal.shifted digits 1 exponent
      Binary64.ofRatio negative top bottom

def signed : List Char → Bool × List Char
  | '-' :: rest => (true, rest)
  | '+' :: rest => (false, rest)
  | rest => (false, rest)

def splitDigits (text : List Char) : List Char × List Char :=
  (text.takeWhile isAsciiDigit, text.dropWhile isAsciiDigit)

def exponent? : List Char → Option Int
  | [] => some 0
  | c :: rest =>
    if c = 'e' ∨ c = 'E' then
      let (negative, digits) := signed rest
      if digits.isEmpty || !digits.all isAsciiDigit then none
      else some (if negative then -(natOf digits : Int) else natOf digits)
    else none

def unsigned? (negative : Bool) (text : List Char) : Option Binary64 :=
  let (whole, rest) := splitDigits text
  let (fraction, rest) :=
    match rest with
    | '.' :: rest => splitDigits rest
    | rest => ([], rest)
  if whole.isEmpty && fraction.isEmpty then none
  else
    (exponent? rest).map fun exponent =>
      ofDecimal negative (natOf (whole ++ fraction)) (exponent - fraction.length)

def decimal? (text : List Char) : Option Binary64 :=
  let (negative, rest) := signed text
  let name := String.ofList (rest.map Char.toLower)
  if name = "inf" ∨ name = "infinity" then some (.infinite negative)
  else if name = "nan" then some (.nan 0)
  else unsigned? negative rest

def asciiDigits (text : List Char) : List Char :=
  text.map fun c =>
    match digitValue? c with
    | some value => Nat.digitChar value
    | none => c

def joined? (afterDigit : Bool) : List Char → Option (List Char)
  | [] => some []
  | '_' :: rest =>
    if afterDigit && rest.head?.any isAsciiDigit then joined? false rest else none
  | c :: rest => (joined? (isAsciiDigit c) rest).map (c :: ·)

/-- A real number as people write it: blanks around it, digits of any script, single underscores
between digits. The information separators are no blanks here. -/
def real? (text : List Char) : Option Binary64 :=
  (joined? false (asciiDigits (trimmedOf isSpace text))).bind decimal?

/-- Integers are read from this many digits at most. -/
def digitLimit : Nat := 4300

inductive IntegerError where
  | malformed
  | tooLong (digits : Nat)
  deriving DecidableEq, Repr

def IntegerError.message : IntegerError → String
  | .malformed => "not an integer"
  | .tooLong digits =>
    s!"Exceeds the limit ({digitLimit} digits) for integer string conversion: value has " ++
      s!"{digits} digits; use sys.set_int_max_str_digits() to increase the limit"

def natural (digits : List Char) : Except IntegerError Nat :=
  if digitLimit < digits.length then .error (.tooLong digits.length) else .ok (natOf digits)

def integerOf (text : List Char) : Except IntegerError Int :=
  let (negative, digits) := signed text
  if digits.isEmpty || !digits.all isAsciiDigit then .error .malformed
  else (natural digits).map fun n => if negative then -(n : Int) else n

def integer? (text : List Char) : Option Int :=
  (joined? false (asciiDigits (trimmedOf isSpace text))).bind fun text => (integerOf text).toOption

end Numeral
end Chartwright
