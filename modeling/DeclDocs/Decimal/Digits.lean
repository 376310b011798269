import DeclDocs.Text.Word

/-!
Reading digits. Digits denote a number in a base; decimal digits with a power of ten denote the
nearest floating-point number.
-/
namespace DeclDocs.Decimal

open Text

def digitValue (c : Char) : Nat := c.toNat - '0'.toNat

/-- The value of a hexadecimal digit, in either case. -/
def hexValue? (c : Char) : Option Nat :=
  if isAsciiDigit c then some (digitValue c)
  else if 'a' ≤ c && c ≤ 'f' then some (c.toNat - 'a'.toNat + 10)
  else if 'A' ≤ c && c ≤ 'F' then some (c.toNat - 'A'.toNat + 10)
  else none

/-- The number that digits denote in a base of at most sixteen. -/
def numberIn (base : Nat) (digits : List Char) : Nat :=
  digits.foldl (fun n c => base * n + (hexValue? c).getD 0) 0

/-- The number that decimal digits denote. -/
def digitsValue (digits : List Char) : Nat :=
  digits.foldl (fun n c => 10 * n + digitValue c) 0

/-- The number `digits * 10 ^ e`, rounded to the nearest floating-point number. Exponents that no
number of this many digits can reach are cut off first. -/
def scientific (digits : List Char) (e : Int) : Float :=
  let m := digitsValue digits
  let reach : Int := digits.length + 400
  if m == 0 then 0.0
  else if e > 400 then 1.0 / 0.0
  else if e < -reach then 0.0
  else if e ≥ 0 then Float.ofScientific m false e.toNat
  else Float.ofScientific m true (-e).toNat

def negate (negative : Bool) (x : Float) : Float := if negative then -x else x

end DeclDocs.Decimal
