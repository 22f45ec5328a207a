import Chartwright.Calendar.Basic
import Chartwright.Calendar.Lexicon
import Chartwright.Calendar.Parts
import Chartwright.Calendar.Token

/-!
Dates that are written freely: numbers and month names in several orders, times of day with colons,
units or halves of the day, zones, weekdays and fillers. The tokens are read from left to right;
what a number means depends on what has been read and on the tokens around it.
-/

namespace Chartwright.Calendar.FreeForm
open Text

structure Amount where
  whole : Nat
  decimals : List Char
  deriving DecidableEq, Repr

def number? (digits : List Char) : Option Nat :=
  if digits.isEmpty || !digits.all isDigit then none else some (Numeral.natOf digits)

namespace Amount

def ofChars? (chars : List Char) : Option Amount :=
  match chars.dropWhile isDigit with
  | [] => (number? chars).map fun whole => { whole, decimals := [] }
  | '.' :: decimals => do
    let whole ← number? (chars.takeWhile isDigit)
    let _ ← number? decimals
    return { whole, decimals }
  | _ => none

def ofToken? (token : String) : Option Amount := ofChars? token.toList

def isWhole (amount : Amount) : Bool := Numeral.natOf amount.decimals == 0

def sixtieths (amount : Amount) : Nat :=
  60 * Numeral.natOf amount.decimals / Nat.pow 10 amount.decimals.length

def exceeds (amount : Amount) (n : Nat) : Bool :=
  n < amount.whole || (n == amount.whole && !amount.isWhole)

end Amount

/-- What the tokens so far say. A zone has a name or lies some minutes off universal time. -/
structure Reading where
  parts : DateParts := {}
  hour : Option Nat := none
  minute : Option Nat := none
  second : Option Nat := none
  hasDecimals : Bool := false
  zone : Option String := none
  offset : Option Nat := none
  deriving DecidableEq, Repr

abbrev Step := Option (Reading × Nat)

def addWritten? (parts : DateParts) (token : String) : Option DateParts := do
  let n ← number? token.toList
  if 2 < token.length then parts.addYear? n else some (parts.add n)

def addAmount? (parts : DateParts) (amount : Amount) : Option DateParts :=
  if amount.exceeds 100 then parts.addYear? amount.whole else some (parts.add amount.whole)

def isDay (parts : DateParts) (amount : Amount) : Bool :=
  1 ≤ amount.whole && !amount.exceeds parts.dayLimit

namespace Reading

def setMinute (reading : Reading) (amount : Amount) : Reading :=
  { reading with
    minute := some amount.whole
    second := if amount.isWhole then none else some amount.sixtieths }

def setSecond (reading : Reading) (amount : Amount) : Reading :=
  { reading with second := some amount.whole, hasDecimals := true }

def setUnit (reading : Reading) (amount : Amount) : ClockUnit → Reading
  | .hour =>
    { reading with
      hour := some amount.whole
      minute := if amount.isWhole then reading.minute else some amount.sixtieths }
  | .minute => reading.setMinute amount
  | .second => reading.setSecond amount

def setParts (reading : Reading) (taken : Nat) (parts : Option DateParts) : Step :=
  parts.map fun parts => ({ reading with parts }, taken)

end Reading

def unitAt? (tokens : List String) (place : Nat) : Option ClockUnit :=
  tokens[place]?.bind ClockUnit.ofWord?

/-- The unit of a number: named after it, perhaps behind a blank, or the one that is finer than the
unit before it. It comes with the number of tokens ahead that name it. -/
def unit? (behind ahead : List String) : Option (Option ClockUnit × Nat) :=
  match unitAt? ahead 0 with
  | some unit => some (some unit, 1)
  | none =>
    match if ahead.head? = some " " then unitAt? ahead 1 else none with
    | some unit => some (some unit, 2)
    | none =>
      match unitAt? behind 0 with
      | some unit => some (unit.finer?, 0)
      | none =>
        if ahead.isEmpty && behind.head? = some " " then
          (unitAt? behind 1).map fun unit => (unit.finer?, 0)
        else none

def bareTime? (reading : Reading) (token : List Char) : Step := do
  let hour ← number? (token.take 2)
  if token.length = 2 then return ({ reading with hour := some hour }, 0)
  let minute ← number? (token.drop 2)
  return ({ reading with hour := some hour, minute := some minute }, 0)

/-- Six digits: a date with a year of two digits if none has been read, else a time of day. -/
def sixDigits? (reading : Reading) (token : List Char) : Step := do
  let first ← number? (token.take 2)
  let second ← number? ((token.drop 2).take 2)
  let third ← Amount.ofChars? (token.drop 4)
  if reading.parts.numbers.isEmpty && !token.contains '.' then
    let parts := ((reading.parts.add first).add second).add third.whole
    return ({ reading with parts }, 0)
  else
    let timed := { reading with hour := some first, minute := some second }
    return (timed.setSecond third, 0)

def manyDigits? (reading : Reading) (token : List Char) : Step := do
  let part := fun start => number? ((token.drop start).take 2)
  let parts ← (number? (token.take 4)).bind reading.parts.addYear?
  let month ← part 4
  let day ← part 6
  let dated := { reading with parts := (parts.add month).add day }
  if token.length = 8 then return (dated, 0)
  let hour ← part 8
  let minute ← part 10
  let timed := { dated with hour := some hour, minute := some minute }
  if token.length = 12 then return (timed, 0)
  let second ← part 12
  return ({ timed with second := some second }, 0)

def clock? (reading : Reading) (hour : Amount) (minute : String) (rest : List String) : Step := do
  let minute ← Amount.ofToken? minute
  let timed := { reading with hour := some hour.whole }.setMinute minute
  match rest with
  | ":" :: second :: _ =>
    let second ← Amount.ofToken? second
    return (timed.setSecond second, 4)
  | _ => return (timed, 2)

def addMember? (parts : DateParts) (token : String) : Option DateParts :=
  match month? token with
  | some month => parts.addMonth? month
  | none => addWritten? parts token

/-- A number before a sign, and up to two more members of a date behind such signs. -/
def members? (reading : Reading) (token mark : String) (rest : List String) : Step := do
  let parts ← addWritten? reading.parts token
  match rest with
  | [] => return ({ reading with parts }, 1)
  | next :: rest =>
    if isFiller next then return ({ reading with parts }, 1)
    let parts ← addMember? parts next
    match rest with
    | other :: rest =>
      if other = mark then
        let third :: _ := rest | none
        reading.setParts 4 (addMember? parts third)
      else return ({ reading with parts }, 2)
    | [] => return ({ reading with parts }, 2)

/-- A number that stands by itself: an hour before a half of the day, or a member of the date. -/
def single? (reading : Reading) (amount : Amount) (ahead : List String) : Step :=
  let half := fun place => (ahead[place]? : Option String).bind DayHalf.ofWord?
  if ahead.head?.all isFiller then
    match half 1 with
    | some half => some ({ reading with hour := some (half.hour amount.whole) }, 2)
    | none => reading.setParts 1 (addAmount? reading.parts amount)
  else
    match if amount.whole < 24 then half 0 else none with
    | some half => some ({ reading with hour := some (half.hour amount.whole) }, 1)
    | none =>
      if isDay reading.parts amount then reading.setParts 0 (addAmount? reading.parts amount)
      else none

def number (reading : Reading) (behind : List String) (token : String) (amount : Amount)
    (ahead : List String) : Step :=
  let chars := token.toList
  let size := chars.length
  if reading.parts.numbers.length = 3 ∧ (size = 2 ∨ size = 4) ∧ reading.hour = none ∧
      ahead.head?.all (fun next => next ≠ ":" && (ClockUnit.ofWord? next).isNone) then
    bareTime? reading chars
  else if size = 6 ∨ (6 < size ∧ (chars.takeWhile (· ≠ '.')).length = 6) then
    sixDigits? reading chars
  else if size = 8 ∨ size = 12 ∨ size = 14 then manyDigits? reading chars
  else
    match unit? behind ahead, ahead with
    | some (some unit, taken), _ => some (reading.setUnit amount unit, taken)
    | some (none, taken), _ => some (reading, taken)
    | none, ":" :: minute :: rest => clock? reading amount minute rest
    | none, "-" :: rest => members? reading token "-" rest
    | none, "/" :: rest => members? reading token "/" rest
    | none, "." :: rest => members? reading token "." rest
    | none, _ => single? reading amount ahead

def named? (reading : Reading) (month : Nat) (ahead : List String) : Step := do
  let parts ← reading.parts.addMonth? month
  let fullYear := fun n => if n < 100 then n + 2000 else n
  let behindMark := fun (mark : String) (rest : List String) => do
    let next :: rest := rest | none
    let parts ← addWritten? parts next
    match rest with
    | other :: rest =>
      if other = mark then
        let third :: _ := rest | none
        reading.setParts 4 (addWritten? parts third)
      else return ({ reading with parts }, 2)
    | [] => return ({ reading with parts }, 2)
  match ahead with
  | "-" :: rest => behindMark "-" rest
  | "/" :: rest => behindMark "/" rest
  | " " :: joint :: " " :: year :: _ =>
    if folded joint ≠ "of" then return ({ reading with parts }, 0)
    match number? year.toList with
    | some n => reading.setParts 4 (parts.addYear? (fullYear n))
    | none => return ({ reading with parts }, 4)
  | _ => return ({ reading with parts }, 0)

/-- A named zone. Before a sign it is the place that the distance is counted from, and universal
time is then no zone of its own. -/
def zone (reading : Reading) (name : String) (ahead : List String) : Reading :=
  if ahead.head? = some "+" ∨ ahead.head? = some "-" then
    { reading with zone := if isUniversal name then none else some name }
  else { reading with zone := some name, offset := if name = "z" then some 0 else none }

def distance? : List String → Option (Nat × Nat)
  | [] => none
  | first :: rest => do
    let chars := first.toList
    if chars.length = 4 then
      let hours ← number? (chars.take 2)
      let minutes ← number? (chars.drop 2)
      return (60 * hours + minutes, 1)
    else
      match rest with
      | ":" :: minutes =>
        let hours ← number? chars
        let minutes ← minutes.head?.bind fun minutes => number? minutes.toList
        return (60 * hours + minutes, 3)
      | _ =>
        if chars.length ≤ 2 then (number? chars).map fun hours => (60 * hours, 1) else none

def offset? (reading : Reading) (ahead : List String) : Step := do
  let (minutes, taken) ← distance? ahead
  let reading := { reading with offset := some minutes }
  match ahead.drop taken with
  | joint :: "(" :: name :: ")" :: _ =>
    if isFiller joint && 3 ≤ name.length && reading.zone.isNone && isZoneName name then
      return ({ reading with zone := some name }, taken + 4)
    else return (reading, taken)
  | _ => return (reading, taken)

def word (reading : Reading) (token : String) (ahead : List String) : Step :=
  match reading.hour, month? token, DayHalf.ofWord? token with
  | _, some month, _ => named? reading month ahead
  | hour, none, half =>
    if isNumberWord token then none
    else if isWeekday token then some (reading, 0)
    else
      match hour, half with
      | none, some _ => none
      | some hour, some half =>
        if hour ≤ 12 then some ({ reading with hour := some (half.hour hour) }, 0) else none
      | _, none =>
        if hour.isSome && reading.zone.isNone && reading.offset.isNone && isZoneName token then
          some (zone reading token ahead, 0)
        else if hour.isSome && (token = "+" || token = "-") then offset? reading ahead
        else if isFiller token then some (reading, 0)
        else none

def step (reading : Reading) (behind : List String) (token : String) (ahead : List String) :
    Step :=
  match Amount.ofToken? token with
  | some amount => number reading behind token amount ahead
  | none => word reading token ahead

def readFrom (reading : Reading) (behind : List String) : List String → Option Reading
  | [] => some reading
  | token :: ahead =>
    match step reading behind token ahead with
    | none => none
    | some (reading, taken) =>
      readFrom reading ((ahead.take taken).reverse ++ token :: behind) (ahead.drop taken)
termination_by tokens => tokens.length
decreasing_by simp only [List.length_drop, List.length_cons]; omega

def beginsWithTime (text : List Char) : Bool :=
  let time := fun hours rest =>
    match number? hours, Calendar.number? 2 rest with
    | some hour, some (minute, _) => hours.all isAsciiDigit && isTime hour minute 0
    | _, _ => false
  match text with
  | a :: ':' :: rest => time [a] rest
  | a :: b :: ':' :: rest => time [a, b] rest
  | _ => false

/-- Whether the zone is known. A name alone will do for universal time, and also in a text that
begins with a time of day. -/
def isZoned (anyName : Bool) (reading : Reading) : Bool :=
  match reading.zone, reading.offset with
  | none, none => true
  | none, some minutes => minutes < 1440
  | some name, none => anyName || isUniversal name
  | some name, some minutes => isUniversal name || minutes < 1440

/-- The decimals behind the first full time of day, if there are more than six of them. -/
def fineDecimals (text : List Char) : List Char :=
  match text with
  | [] => []
  | d :: ':' :: a :: b :: ':' :: e :: f :: '.' :: rest =>
    if [d, a, b, e, f].all isDigit ∧ rest.head?.any isDigit then
      let digits := rest.takeWhile isDigit
      if 6 < digits.length then digits.take 9 else []
    else fineDecimals (':' :: a :: b :: ':' :: e :: f :: '.' :: rest)
  | _ :: rest => fineDecimals rest

/-- The moment of a reading, if it exists. A year of two digits belongs to this century, and the
parts that are not named have their least value. -/
def moment? (reading : Reading) (decimals : List Char) : Option WrittenDate := do
  let date ← reading.parts.resolve?
  let named := [date.year, date.month, date.day, reading.hour, reading.minute, reading.second]
  if named.all Option.isNone then none
  let year := (date.year.map fun year =>
    if year < 100 && !reading.parts.isCenturyKnown then year + 2000 else year).getD 1
  let month := date.month.getD 1
  let day := date.day.getD 1
  let hour := reading.hour.getD 0
  let minute := reading.minute.getD 0
  let second := reading.second.getD 0
  if isInCalendar { year, month, day } && isTime hour minute second then
    return { year, month, day, hour, minute, second, decimals }
  else none

def read? (text : List Char) : Option WrittenDate := do
  let reading ← readFrom {} [] (tokens text)
  if isZoned (beginsWithTime text) reading then
    moment? reading (if reading.hasDecimals then fineDecimals text else [])
  else none

end Chartwright.Calendar.FreeForm
