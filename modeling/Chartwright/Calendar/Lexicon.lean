import Chartwright.Text.Words

/-!
The words of dates: weekdays and months, the names of hours, minutes and seconds, the halves of the
day, names of universal time, and fillers without a meaning. Case does not count.
-/

namespace Chartwright.Calendar

def folded (word : String) : String := String.ofList (Text.lower word.toList)

def position? (groups : List (List String)) (word : String) : Option Nat :=
  groups.findIdx? fun names => names.contains (folded word)

def weekdays : List (List String) :=
  [["mon", "monday"], ["tue", "tuesday"], ["wed", "wednesday"], ["thu", "thursday"],
   ["fri", "friday"], ["sat", "saturday"], ["sun", "sunday"]]

def months : List (List String) :=
  [["jan", "january"], ["feb", "february"], ["mar", "march"], ["apr", "april"], ["may"],
   ["jun", "june"], ["jul", "july"], ["aug", "august"], ["sep", "sept", "september"],
   ["oct", "october"], ["nov", "november"], ["dec", "december"]]

def isWeekday (word : String) : Bool := (position? weekdays word).isSome

def month? (word : String) : Option Nat := (position? months word).map (· + 1)

inductive ClockUnit where
  | hour
  | minute
  | second
  deriving DecidableEq, Repr

def ClockUnit.ofPosition? : Nat → Option ClockUnit
  | 0 => some .hour
  | 1 => some .minute
  | 2 => some .second
  | _ => none

def ClockUnit.ofWord? (word : String) : Option ClockUnit :=
  (position? [["h", "hour", "hours"], ["m", "minute", "minutes"], ["s", "second", "seconds"]]
    word).bind ofPosition?

def ClockUnit.finer? : ClockUnit → Option ClockUnit
  | .hour => some .minute
  | .minute => some .second
  | .second => none

inductive DayHalf where
  | morning
  | afternoon
  deriving DecidableEq, Repr

def DayHalf.ofWord? (word : String) : Option DayHalf :=
  let word := folded word
  if word = "am" ∨ word = "a" then some .morning
  else if word = "pm" ∨ word = "p" then some .afternoon
  else none

/-- The hour of the day for an hour of a half; hours beyond noon stay as they are. -/
def DayHalf.hour (half : DayHalf) (hour : Nat) : Nat :=
  match half with
  | .afternoon => if hour < 12 then hour + 12 else hour
  | .morning => if hour = 12 then 0 else hour

def isUniversal (name : String) : Bool := ["utc", "gmt", "z"].contains (folded name)

/-- Whether a word may name a zone: a few capitals, or a name of universal time. -/
def isZoneName (word : String) : Bool :=
  word.length ≤ 5 && (word.toList.all Text.isAsciiUpper || word = "z")

def isFiller (word : String) : Bool :=
  [" ", ".", ",", ";", "-", "/", "'", "at", "on", "and", "ad", "m", "t", "of", "st", "nd", "rd",
   "th"].contains (folded word)

def isNumberWord (word : String) : Bool := ["nan", "inf", "infinity"].contains (folded word)

end Chartwright.Calendar
