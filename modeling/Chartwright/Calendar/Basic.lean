import Chartwright.Number.Numeral

/-!
Calendar dates and moments of a day: which dates exist, how they are written, and how the two are
read from the extended form that native values of a table are given in.
-/

namespace Chartwright

structure Date where
  year : Nat
  month : Nat
  day : Nat
  deriving DecidableEq, Repr

/-- A moment of a day. The clock may be known to stand `offset` seconds ahead of universal time. -/
structure Moment where
  date : Date
  hour : Nat := 0
  minute : Nat := 0
  second : Nat := 0
  microsecond : Nat := 0
  offset : Option Int := none
  deriving DecidableEq, Repr

namespace Calendar
open Text

def isLeap (year : Nat) : Bool := year % 4 = 0 && (year % 100 ≠ 0 || year % 400 = 0)

def daysIn (year month : Nat) : Nat :=
  if month = 2 then if isLeap year then 29 else 28
  else if month = 4 ∨ month = 6 ∨ month = 9 ∨ month = 11 then 30
  else 31

def hasDay (year month day : Nat) : Bool :=
  1 ≤ month && month ≤ 12 && 1 ≤ day && day ≤ daysIn year month

def isInCalendar (d : Date) : Bool :=
  1 ≤ d.year && d.year ≤ 9999 && hasDay d.year d.month d.day

def isTime (hour minute second : Nat) : Bool := hour < 24 && minute < 60 && second < 60

def padded (width n : Nat) : String :=
  let digits := Numeral.digitsOf n
  String.ofList (List.replicate (width - digits.length) '0' ++ digits)

def number? (count : Nat) (text : List Char) : Option (Nat × List Char) :=
  let digits := text.take count
  if digits.length = count && digits.all isAsciiDigit then
    some (Numeral.natOf digits, text.drop count)
  else none

def after? (mark : Char) : List Char → Option (Nat × List Char)
  | c :: rest => if c = mark then number? 2 rest else none
  | [] => none

def date? (text : List Char) : Option (Date × List Char) := do
  let (year, rest) ← number? 4 text
  let (month, rest) ← after? '-' rest
  let (day, rest) ← after? '-' rest
  return ({ year, month, day }, rest)

def decimals : List Char → Nat × List Char
  | '.' :: rest =>
    let (digits, rest) := Numeral.splitDigits rest
    (Numeral.natOf ((digits ++ List.replicate 6 '0').take 6), rest)
  | rest => (0, rest)

def clock? (text : List Char) : Option ((Nat × Nat × Nat × Nat) × List Char) := do
  let (hour, rest) ← number? 2 text
  match after? ':' rest with
  | none => return ((hour, 0, 0, 0), rest)
  | some (minute, rest) =>
    match after? ':' rest with
    | none => return ((hour, minute, 0, 0), rest)
    | some (second, rest) =>
      let (microsecond, rest) := decimals rest
      return ((hour, minute, second, microsecond), rest)

def offset? : List Char → Option Int
  | ['Z'] => some 0
  | '+' :: rest => (clock? rest).map fun ((h, m, s, _), _) => (3600 * h + 60 * m + s : Nat)
  | '-' :: rest => (clock? rest).map fun ((h, m, s, _), _) => -(3600 * h + 60 * m + s : Nat)
  | _ => none

end Calendar

open Calendar

def Date.text (d : Date) : String :=
  padded 4 d.year ++ "-" ++ padded 2 d.month ++ "-" ++ padded 2 d.day

def Date.parts (d : Date) : List Nat := [d.year, d.month, d.day]

/-- Sign, hours and minutes of a distance from universal time; seconds only if there are any. -/
def Calendar.offsetText (offset : Int) : String :=
  let n := offset.natAbs
  (if offset < 0 then "-" else "+") ++ padded 2 (n / 3600) ++ ":" ++ padded 2 (n / 60 % 60) ++
    if n % 60 = 0 then "" else ":" ++ padded 2 (n % 60)

/-- Date and time with a blank between them; microseconds only if there are any. -/
def Moment.text (m : Moment) : String :=
  m.date.text ++ " " ++ padded 2 m.hour ++ ":" ++ padded 2 m.minute ++ ":" ++ padded 2 m.second ++
    (if m.microsecond = 0 then "" else "." ++ padded 6 m.microsecond) ++
    (m.offset.map offsetText).getD ""

def Moment.parts (m : Moment) : List Nat :=
  m.date.parts ++ [m.hour, m.minute] ++
    if m.microsecond ≠ 0 then [m.second, m.microsecond]
    else if m.second ≠ 0 then [m.second]
    else []

def Date.ofText? (text : String) : Option Date :=
  match date? text.toList with
  | some (date, []) => some date
  | _ => none

def Moment.ofText? (text : String) : Option Moment := do
  let (date, rest) ← date? text.toList
  match rest with
  | [] => return { date }
  | _ :: rest =>
    let ((hour, minute, second, microsecond), rest) ← clock? rest
    return { date, hour, minute, second, microsecond, offset := offset? rest }

/-! What a text says about a moment, with the decimals of the second as they are written. -/

structure WrittenDate where
  year : Nat
  isNegative : Bool := false
  month : Nat := 1
  day : Nat := 1
  hour : Nat := 0
  minute : Nat := 0
  second : Nat := 0
  decimals : List Char := []
  deriving DecidableEq, Repr

namespace WrittenDate

def parts (date : WrittenDate) : List Nat :=
  [date.year, date.month, date.day, date.hour, date.minute, date.second,
    Numeral.natOf ((date.decimals ++ List.replicate 18 '0').take 18)]

def firstCounted : List Nat := [1677, 9, 21, 0, 12, 43, 145224193000000000]
def lastCounted : List Nat := [2262, 4, 11, 23, 47, 16, 854775807000000000]

/-- Whether the moment can be counted. With more than six decimals it is counted in nanoseconds,
which do not reach far; all others can be. -/
def isCountable (date : WrittenDate) : Bool :=
  date.decimals.length ≤ 6 ||
    (!date.isNegative && !date.parts.lex firstCounted && !lastCounted.lex date.parts)

end WrittenDate

end Chartwright
