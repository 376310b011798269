import DeclDocs.Decimal.Digits
import DeclDocs.Settings.Value
import DeclDocs.Text.Split

/-!
What plain scalars mean. Words for truth values and for nothing, numbers in several bases and
notations, dates and moments are recognised; everything else is a text.
-/
namespace DeclDocs.Yaml

open Text Decimal Settings

/-- Why a value cannot be made. -/
inductive Fault where
  /-- The text is not well formed. -/
  | malformed
  /-- The text is well formed and denotes nothing. -/
  | meaningless (reason : String)
  deriving DecidableEq, Repr

def nullWords : List String := ["", "~", "null", "Null", "NULL"]

def trueWords : List String := ["yes", "Yes", "YES", "true", "True", "TRUE", "on", "On", "ON"]

def falseWords : List String := ["no", "No", "NO", "false", "False", "FALSE", "off", "Off", "OFF"]

def infinityWords : List String := [".inf", ".Inf", ".INF"]

def notANumberWords : List String := [".nan", ".NaN", ".NAN"]

/-- Split off a sign; true means minus. -/
def splitSign : List Char → Bool × List Char
  | '-' :: rest => (true, rest)
  | '+' :: rest => (false, rest)
  | text => (false, text)

def orUnderscore (p : Char → Bool) (c : Char) : Bool := p c || c == '_'

/-- A run of digits with underscores among them, not empty. -/
def isRun (p : Char → Bool) (text : List Char) : Bool := !text.isEmpty && text.all (orUnderscore p)

def startsWith (p : Char → Bool) (text : List Char) : Bool := text.head?.any p

def isBinaryDigit (c : Char) : Bool := c == '0' || c == '1'
def isOctalDigit (c : Char) : Bool := '0' ≤ c && c ≤ '7'
def isHexDigit (c : Char) : Bool := (hexValue? c).isSome
def isPositiveDigit (c : Char) : Bool := '1' ≤ c && c ≤ '9'

def dropUnderscores (text : List Char) : List Char := text.filter fun c => c != '_'

/-- A part of a number in base sixty behind the first: one digit, or two of which the first is at
most five. -/
def isSixtieth : List Char → Bool
  | [d] => isAsciiDigit d
  | [t, d] => '0' ≤ t && t ≤ '5' && isAsciiDigit d
  | _ => false

/-- Digits of a number with a base mark; there has to be one that is no underscore. -/
def markedNumber (base : Nat) (digits : List Char) : Except Fault Int :=
  let digits := dropUnderscores digits
  if digits.isEmpty then
    .error (.meaningless ("invalid literal for int() with base " ++ toString base ++ ": ''"))
  else .ok (numberIn base digits)

/-- A whole number without its sign: binary, octal, hexadecimal, decimal or in base sixty. -/
def unsignedInt? (text : List Char) : Option (Except Fault Int) :=
  match text with
  | '0' :: 'b' :: digits =>
      if isRun isBinaryDigit digits then some (markedNumber 2 digits) else none
  | '0' :: 'x' :: digits =>
      if isRun isHexDigit digits then some (markedNumber 16 digits) else none
  | ['0'] => some (.ok 0)
  | '0' :: digits =>
      if isRun isOctalDigit digits then some (.ok (numberIn 8 (dropUnderscores digits))) else none
  | _ =>
      match splitOn ':' text with
      | [] => none
      | first :: parts =>
          if startsWith isPositiveDigit first && isRun isAsciiDigit first &&
              parts.all isSixtieth then
            some (.ok (parts.foldl (fun (n : Int) part => 60 * n + (digitsValue part : Int))
              (digitsValue (dropUnderscores first))))
          else none

def int? (text : List Char) : Option (Except Fault Value) :=
  let (negative, digits) := splitSign text
  (unsignedInt? digits).map fun n => n.map fun n => .int (if negative then -n else n)

/-- An exponent with its sign, or nothing. -/
def exponentPart? : List Char → Option Int
  | [] => some 0
  | e :: sign :: digits =>
      if (e == 'e' || e == 'E') && (sign == '-' || sign == '+') && !digits.isEmpty &&
          digits.all isAsciiDigit then
        some (if sign == '-' then -(digitsValue digits : Int) else digitsValue digits)
      else none
  | _ => none

/-- A number with a point: digits before it, digits after it and an exponent. -/
def pointed? (before text : List Char) : Option Float :=
  let after := text.takeWhile (orUnderscore isAsciiDigit)
  (exponentPart? (text.dropWhile (orUnderscore isAsciiDigit))).map fun e =>
    let fraction := dropUnderscores after
    scientific (dropUnderscores before ++ fraction) (e - fraction.length)

/-- The parts of a number in base sixty, the last one with a fraction, added up from the smallest.
-/
def sixtieths (parts : List Float) : Float :=
  (parts.reverse.foldl (fun (sum, base) part => (sum + part * base, base * 60.0)) (0.0, 1.0)).1

def decimal (digits : List Char) : Float := scientific (dropUnderscores digits) 0

/-- A number with a point and without a sign. -/
def unsignedFloat? (text : List Char) : Option Float :=
  let before := text.takeWhile fun c => c != '.'
  match text.drop before.length with
  | '.' :: after =>
      match splitOn ':' before with
      | [whole] =>
          if startsWith isAsciiDigit whole && isRun isAsciiDigit whole then pointed? whole after
          else none
      | first :: parts =>
          if startsWith isAsciiDigit first && isRun isAsciiDigit first && parts.all isSixtieth &&
              after.all (orUnderscore isAsciiDigit) then
            let fraction := dropUnderscores after
            let last := parts.getLast?.getD []
            some (sixtieths ((first :: parts.dropLast).map decimal ++
              [scientific (last ++ fraction) (-fraction.length)]))
          else none
      | [] => none
  | _ => none

def float? (text : List Char) : Option Float :=
  let (negative, digits) := splitSign text
  if notANumberWords.contains (String.ofList text) then some (0.0 / 0.0)
  else if infinityWords.contains (String.ofList digits) then some (negate negative (1.0 / 0.0))
  else
    match text with
    | '.' :: after => if startsWith isAsciiDigit after then pointed? [] after else none
    | _ => (unsignedFloat? digits).map (negate negative)

/-- Take between a least and a greatest number of digits. -/
def takeDigits (least greatest : Nat) (text : List Char) : Option (Nat × List Char) :=
  let digits := (text.take greatest).takeWhile isAsciiDigit
  if digits.length < least then none else some (digitsValue digits, text.drop digits.length)

def takeChar (c : Char) : List Char → Option (List Char)
  | first :: rest => if first == c then some rest else none
  | [] => none

def isSpaceOrTab (c : Char) : Bool := c == ' ' || c == '\t'

def date? (text : List Char) : Option Date := do
  let (year, text) ← takeDigits 4 4 text
  let text ← takeChar '-' text
  let (month, text) ← takeDigits 2 2 text
  let text ← takeChar '-' text
  let (day, text) ← takeDigits 2 2 text
  if text.isEmpty then return ⟨year, month, day⟩ else none

/-- The zone at the end of a moment: none, the letter for zero, or an offset. -/
def zone? (text : List Char) : Option (Option Int) :=
  match text, text.dropWhile isSpaceOrTab with
  | [], _ => some none
  | _, ['Z'] => some (some 0)
  | _, sign :: text =>
      if sign == '-' || sign == '+' then do
        let (hours, text) ← takeDigits 1 2 text
        let minutes ← (match text with
          | [] => some 0
          | ':' :: text => do
              let (minutes, text) ← takeDigits 2 2 text
              if text.isEmpty then return minutes else none
          | _ => none)
        let offset : Int := hours * 60 + minutes
        return some (if sign == '-' then -offset else offset)
      else none
  | _, [] => none

def moment? (text : List Char) : Option Moment := do
  let (year, text) ← takeDigits 4 4 text
  let text ← takeChar '-' text
  let (month, text) ← takeDigits 1 2 text
  let text ← takeChar '-' text
  let (day, text) ← takeDigits 1 2 text
  let text ← (match text with
    | 'T' :: rest => some rest
    | 't' :: rest => some rest
    | _ => if startsWith isSpaceOrTab text then some (text.dropWhile isSpaceOrTab) else none)
  let (hour, text) ← takeDigits 1 2 text
  let text ← takeChar ':' text
  let (minute, text) ← takeDigits 2 2 text
  let text ← takeChar ':' text
  let (second, text) ← takeDigits 2 2 text
  let (fraction, text) := (match text with
    | '.' :: rest => (rest.takeWhile isAsciiDigit, rest.dropWhile isAsciiDigit)
    | _ => ([], text))
  let offset ← zone? text
  let micros := digitsValue (fraction.take 6 ++ List.replicate (6 - fraction.length) '0')
  return ⟨⟨year, month, day⟩, hour, minute, second, micros, offset⟩

def unlessFault {α : Type} (fault : Option String) (a : α) : Except Fault α :=
  match fault with
  | some reason => .error (.meaningless reason)
  | none => .ok a

/-- The value of a plain scalar. The marks for merging and for a default value have none. -/
def plainValue (text : List Char) : Except Fault Value :=
  let word := String.ofList text
  if nullWords.contains word then .ok .null
  else if trueWords.contains word then .ok (.bool true)
  else if falseWords.contains word then .ok (.bool false)
  else if word == "<<" || word == "=" then .error .malformed
  else
    match float? text, int? text, date? text, moment? text with
    | some x, _, _, _ => .ok (.float x)
    | none, some n, _, _ => n
    | none, none, some d, _ => unlessFault d.fault? (.date d)
    | none, none, none, some m => unlessFault m.fault? (.moment m)
    | none, none, none, none => .ok (.text word)

end DeclDocs.Yaml
