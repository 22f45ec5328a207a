import Chartwright.Calendar.Basic

/-!
The numbers of a date in the order in which they are written, and which of them is the year, the
month and the day. A number of three digits or more is a year, a name is a month, and the rest is
told by size: a first number above 31 is a year, one above 12 a day.
-/

namespace Chartwright.Calendar

structure DateParts where
  numbers : List Nat := []
  yearAt : Option Nat := none
  monthAt : Option Nat := none
  /-- Whether a year is written in full, so that `24` would be the year 24. -/
  isCenturyKnown : Bool := false
  deriving DecidableEq, Repr

structure PartialDate where
  year : Option Nat := none
  month : Option Nat := none
  day : Option Nat := none
  deriving DecidableEq, Repr

namespace DateParts

def add (parts : DateParts) (n : Nat) : DateParts := { parts with numbers := parts.numbers ++ [n] }

def addYear? (parts : DateParts) (n : Nat) : Option DateParts :=
  if parts.yearAt.isSome then none
  else some { parts.add n with yearAt := some parts.numbers.length, isCenturyKnown := true }

def addMonth? (parts : DateParts) (n : Nat) : Option DateParts :=
  if parts.monthAt.isSome then none
  else some { parts.add n with monthAt := some parts.numbers.length }

def year? (parts : DateParts) : Option Nat := parts.yearAt.bind (parts.numbers[·]?)

def monthNumber? (parts : DateParts) : Option Nat := parts.monthAt.bind (parts.numbers[·]?)

def dayLimit (parts : DateParts) : Nat :=
  match parts.monthNumber? with
  | none => 31
  | some month => daysIn (parts.year?.getD 2000) month

def ordered (yearFirst : Bool) (a b c : Nat) : PartialDate :=
  if yearFirst || 31 < a then { year := some a, month := some b, day := some c }
  else if 12 < a then { day := some a, month := some b, year := some c }
  else { month := some a, day := some b, year := some c }

def besideMonth (monthIsLast : Bool) (month a b : Nat) : PartialDate :=
  if (if monthIsLast then b ≤ 31 else 31 < a) then
    { year := some a, month := some month, day := some b }
  else { day := some a, month := some month, year := some b }

/-- A number beside a named month, or alone: a day if it can be one, else a year. -/
def alone (month : Option Nat) (n : Nat) : PartialDate :=
  if 31 < n then { month, year := some n } else { month, day := some n }

def marked? (parts : DateParts) : Option PartialDate :=
  match parts.numbers, parts.yearAt, parts.monthAt with
  | [n], some _, none => some { year := some n }
  | [n], none, some _ => some { month := some n }
  | [a, b], some y, some _ =>
    some (if y = 0 then { year := some a, month := some b }
      else { month := some a, year := some b })
  | [a, b, c], some y, some m =>
    let day := if y ≠ 0 ∧ m ≠ 0 then a else if y ≠ 1 ∧ m ≠ 1 then b else c
    some { year := parts.year?, month := parts.monthNumber?, day := some day }
  | _, _, _ => none

def resolve? (parts : DateParts) : Option PartialDate :=
  match parts.marked? with
  | some date => some date
  | none =>
    match parts.numbers, parts.monthAt with
    | [], _ => some {}
    | [n], none => some (alone none n)
    | [a, b], some 0 => some (alone (some a) b)
    | [a, b], some _ => some (alone (some b) a)
    | [a, b], none =>
      some (if 31 < a then { year := some a, month := some b }
        else if 31 < b then { month := some a, year := some b }
        else { month := some a, day := some b })
    | [a, b, c], none => some (ordered (parts.yearAt = some 0) a b c)
    | [a, b, c], some 0 => some (besideMonth false a b c)
    | [a, b, c], some 1 => some (besideMonth false b a c)
    | [a, b, c], some _ => some (besideMonth true c a b)
    | _, _ => none

end DateParts
end Chartwright.Calendar
