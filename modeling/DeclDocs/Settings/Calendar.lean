import DeclDocs.Text.Split

/-!
Dates and moments that settings may hold. A moment is a date with a time of day and, where it is
known, the offset of its zone. Both have a text and a longer form for use inside lists.
-/
namespace DeclDocs.Settings

/-- A number filled with zeros to a width. -/
def padded (width n : Nat) : String :=
  let digits := Nat.toDigits 10 n
  String.ofList (List.replicate (width - digits.length) '0' ++ digits)

structure Date where
  year : Nat
  month : Nat
  day : Nat
  deriving DecidableEq, Repr

namespace Date

def isLeapYear (year : Nat) : Bool := year % 4 == 0 && (year % 100 != 0 || year % 400 == 0)

def daysIn (year month : Nat) : Nat :=
  if month == 2 then (if isLeapYear year then 29 else 28)
  else if [4, 6, 9, 11].contains month then 30
  else 31

/-- What is wrong with a date, if it is none of the calendar. -/
def fault? (d : Date) : Option String :=
  if d.year == 0 then some "year 0 is out of range"
  else if d.month == 0 || 12 < d.month then some "month must be in 1..12"
  else if d.day == 0 || daysIn d.year d.month < d.day then some "day is out of range for month"
  else none

def text (d : Date) : String :=
  padded 4 d.year ++ "-" ++ padded 2 d.month ++ "-" ++ padded 2 d.day

def parts (d : Date) : List Nat := [d.year, d.month, d.day]

end Date

structure Moment where
  date : Date
  hour : Nat
  minute : Nat
  second : Nat
  micros : Nat
  /-- The offset of the zone in minutes. -/
  offset : Option Int
  deriving DecidableEq, Repr

namespace Moment

/-- What is wrong with the date or else the time of day. -/
def clockFault? (m : Moment) : Option String :=
  match m.date.fault? with
  | some fault => some fault
  | none =>
      if 23 < m.hour then some "hour must be in 0..23"
      else if 59 < m.minute then some "minute must be in 0..59"
      else if 59 < m.second then some "second must be in 0..59"
      else none

def offsetText (offset : Int) : String :=
  (if offset < 0 then "-" else "+") ++ padded 2 (offset.natAbs / 60) ++ ":" ++
    padded 2 (offset.natAbs % 60)

def text (m : Moment) : String :=
  m.date.text ++ " " ++ padded 2 m.hour ++ ":" ++ padded 2 m.minute ++ ":" ++ padded 2 m.second ++
    (if m.micros == 0 then "" else "." ++ padded 6 m.micros) ++ (m.offset.map offsetText).getD ""

/-- The time of day, without parts at its end that are zero. -/
def timeParts (m : Moment) : List Nat :=
  [m.hour, m.minute] ++
    (if m.micros != 0 then [m.second, m.micros] else if m.second != 0 then [m.second] else [])

end Moment

/-- Numbers between commas. -/
def listed (numbers : List Nat) : String := String.intercalate ", " (numbers.map toString)

/-- A span of seconds in its long form: whole days, rounded down, and the seconds on top of them. -/
def spanForm (seconds : Int) : String :=
  let days := seconds.fdiv 86400
  let rest := seconds.fmod 86400
  let parts :=
    (if days == 0 then [] else ["days=" ++ toString days]) ++
      (if rest == 0 then [] else ["seconds=" ++ toString rest])
  "datetime.timedelta(" ++
    (if parts.isEmpty then "0" else String.intercalate ", " parts) ++ ")"

def zoneForm (offset : Int) : String :=
  if offset == 0 then "datetime.timezone.utc"
  else "datetime.timezone(" ++ spanForm (offset * 60) ++ ")"

/-- What is wrong with the offset of a zone: it has to be less than a day either way. -/
def zoneFault? (offset : Int) : Option String :=
  if offset.natAbs < 1440 then none
  else
    some ("offset must be a timedelta strictly between -timedelta(hours=24) and " ++
      "timedelta(hours=24), not " ++ spanForm (offset * 60) ++ ".")

/-- What is wrong with a moment; a fault in its zone comes first. -/
def Moment.fault? (m : Moment) : Option String :=
  (m.offset.bind zoneFault?).or m.clockFault?

def Date.longForm (d : Date) : String := "datetime.date(" ++ listed d.parts ++ ")"

def Moment.longForm (m : Moment) : String :=
  "datetime.datetime(" ++ listed (m.date.parts ++ m.timeParts) ++
    (match m.offset with
      | none => ""
      | some offset => ", tzinfo=" ++ zoneForm offset) ++ ")"

end DeclDocs.Settings
