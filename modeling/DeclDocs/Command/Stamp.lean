import DeclDocs.Settings.Calendar
import DeclDocs.Text.Quoted

/-!
Names and times that tell runs apart: a run is named by sixteen random octets, and a moment is
given by the seconds since the beginning of 1970 in universal time.
-/
namespace DeclDocs.Command

open Settings

/-- Two hexadecimal digits for each octet. -/
def hexText (octets : List UInt8) : String :=
  String.ofList (octets.flatMap fun octet => Text.Quoted.hex 2 octet.toNat)

/-- The octets with the marks of a random identifier: version four and the usual variant. -/
def markRandom (octets : List UInt8) : List UInt8 :=
  octets.mapIdx fun i octet =>
    if i == 6 then octet % 16 + 0x40
    else if i == 8 then octet % 64 + 0x80
    else octet

/-- The name of a run: the octets in five groups. -/
def runName (octets : List UInt8) : String :=
  let marked := markRandom octets
  String.intercalate "-"
    [hexText (marked.take 4), hexText ((marked.drop 4).take 2), hexText ((marked.drop 6).take 2),
     hexText ((marked.drop 8).take 2), hexText (marked.drop 10)]

/-- The date of a day counted from the beginning of 1970. Years are taken to begin in March, so that
a leap day is the last day of its year. -/
def dateOfDay (day : Nat) : Date :=
  let shifted := day + 719468
  let era := shifted / 146097
  let dayOfEra := shifted % 146097
  let yearOfEra := (dayOfEra - dayOfEra / 1460 + dayOfEra / 36524 - dayOfEra / 146096) / 365
  let dayOfYear := dayOfEra - (365 * yearOfEra + yearOfEra / 4 - yearOfEra / 100)
  let monthFromMarch := (5 * dayOfYear + 2) / 153
  let month := if monthFromMarch < 10 then monthFromMarch + 3 else monthFromMarch - 9
  { year := yearOfEra + era * 400 + (if month ≤ 2 then 1 else 0)
    month
    day := dayOfYear - (153 * monthFromMarch + 2) / 5 + 1 }

def clockText (seconds : Nat) : String :=
  padded 2 (seconds / 3600 % 24) ++ ":" ++ padded 2 (seconds / 60 % 60) ++ ":" ++
    padded 2 (seconds % 60)

/-- The time of a report. -/
def reportTime (seconds micros : Nat) : String :=
  (dateOfDay (seconds / 86400)).text ++ "T" ++ clockText seconds ++
    (if micros == 0 then "" else "." ++ padded 6 micros) ++ "+00:00"

/-- The time of a line of the log. -/
def lineTime (seconds micros : Nat) : String :=
  (dateOfDay (seconds / 86400)).text ++ " " ++ clockText seconds ++ "," ++ padded 3 (micros / 1000)

end DeclDocs.Command
