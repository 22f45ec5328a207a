import Chartwright.Calendar.FreeForm
import Chartwright.Text.Pattern

/-!
Texts that count as dates. Such a text holds a year, a month and a day in digits, with hyphens or
slashes between them, and as a whole it reads as a moment, in standard form or freely written.
The standard form has year, month and day, in this order and with one separator, then perhaps a time
of day, decimals of the second and a distance from universal time. Only the digits and blanks of
ASCII count there. Numbers behind a separator may have one digit, numbers without one need two.
-/

namespace Chartwright

namespace Calendar.Standard
open Text

def isSeparator (c : Char) : Bool :=
  c == '-' || c == '.' || c == '/' || c == '\\' || c == ' '

def isOver (text : List Char) : Bool := (text.dropWhile isAsciiBlank).isEmpty

def pair? (short : Bool) : List Char → Option (Nat × List Char)
  | c :: rest => do
    if !isAsciiDigit c then none
    match rest with
    | d :: rest' =>
      if isAsciiDigit d then return (Numeral.natOf [c, d], rest')
      else if short then return (Numeral.natOf [c], rest)
      else none
    | [] => if short then return (Numeral.natOf [c], []) else none
  | [] => none

/-- Whether what follows a time of day is nothing, `Z`, or a distance from universal time: hours
below 24, and minutes below 60 if they are given. -/
def isZone (text : List Char) : Bool :=
  match text.dropWhile isAsciiBlank with
  | [] => true
  | 'Z' :: rest => isOver rest
  | sign :: rest =>
    (sign == '+' || sign == '-') &&
      match pair? true rest with
      | none => false
      | some (hours, rest) =>
        hours < 24 &&
          (rest.isEmpty ||
            match pair? true (if rest.head? = some ':' then rest.drop 1 else rest) with
            | none => false
            | some (minutes, rest) => minutes < 60 && isOver rest)

def decimals? (date : WrittenDate) : List Char → Option WrittenDate
  | '.' :: rest =>
    let digits := (rest.take 18).takeWhile isAsciiDigit
    if isZone (rest.drop digits.length) then some { date with decimals := digits } else none
  | rest => if isZone rest then some date else none

def second? (colons : Bool) (date : WrittenDate) (text : List Char) : Option WrittenDate :=
  let seconds :=
    match text with
    | ':' :: rest => if colons then some rest else none
    | c :: _ => if !colons && isAsciiDigit c then some text else none
    | [] => none
  match seconds with
  | none => if isZone text then some date else none
  | some rest => do
    let (second, rest) ← pair? colons rest
    if second < 60 then decimals? { date with second } rest else none

/-- What follows an hour. An hour of one digit stands only before a minute. -/
def minute? (short : Bool) (date : WrittenDate) (text : List Char) : Option WrittenDate :=
  let minutes :=
    match text with
    | ':' :: rest => some (true, rest)
    | c :: _ => if isAsciiDigit c then some (false, text) else none
    | [] => none
  match minutes with
  | none => if !short && isZone text then some date else none
  | some (colons, rest) => do
    let (minute, rest) ← pair? colons rest
    if minute < 60 then second? colons { date with minute } rest else none

def time? (date : WrittenDate) : List Char → Option WrittenDate
  | [] => some date
  | mark :: rest => do
    if mark ≠ 'T' ∧ mark ≠ ' ' then none
    let (hour, after) ← pair? true rest
    if hour < 24 then minute? (after.length + 1 == rest.length) { date with hour } after else none

def day? (date : WrittenDate) : List Char → Option WrittenDate
  | [] => some date
  | c :: rest => do
    let separator := if isSeparator c then some c else none
    let (month, rest) ← pair? separator.isSome (if separator.isSome then rest else c :: rest)
    if rest.isEmpty then
      if separator.isSome && hasDay date.year month 1 then some { date with month } else none
    else
      let rest ←
        match separator, rest with
        | some mark, c :: rest => if c = mark then some rest else none
        | _, rest => some rest
      let (day, rest) ← pair? separator.isSome rest
      if hasDay date.year month day then time? { date with month, day } rest else none

/-- A date in standard form that exists in the calendar. Any year of four digits counts, and a
text without them has the year zero. -/
def read? (text : List Char) : Option WrittenDate := do
  let body := text.dropWhile isAsciiBlank
  let body := if body.head? = some '-' then body.drop 1 else body
  if body.isEmpty then none
  let (year, rest) := (number? 4 body).getD (0, body)
  day? { year, isNegative := text.head? = some '-' } rest

end Calendar.Standard

namespace Calendar
open Text Pattern

def digits : Nat → Pattern Unit
  | 0 => pure ()
  | count + 1 => do
    let _ ← one isDigit
    digits count

def dateMark : Pattern Char := one fun c => c == '-' || c == '/'

def dateInDigits : Pattern Unit := do
  digits 4
  let _ ← dateMark
  digits 2
  let _ ← dateMark
  digits 2

/-- Whether a text names a moment. Zero characters at its end do not count. -/
def readsAsDate (text : List Char) : Bool :=
  let trimmed := (text.reverse.dropWhile (· == '\x00')).reverse
  occurs dateInDigits text &&
    match Standard.read? trimmed with
    | some date => date.isCountable
    | none => (FreeForm.read? trimmed).any WrittenDate.isCountable

end Calendar
end Chartwright
