import DeclDocs.Decimal.Shortest

/-!
How floating-point numbers are written. Numbers whose decimal point lies at most sixteen places to
the right and at most three to the left of the first digit are written positionally, with at least
one digit after the point; all others with a signed exponent of at least two digits.
-/
namespace DeclDocs.Decimal

/-- The decisions of a number format. -/
structure Style where
  /-- Positional notation is used while the point is greater than this. -/
  lowestPoint : Int := -4
  /-- Positional notation is used while the point is at most this. -/
  highestPoint : Int := 16
  notANumber : String
  infinity : String

/-- Numbers in messages. -/
def Style.plain : Style where
  notANumber := "nan"
  infinity := "inf"

/-- Numbers in JSON texts. -/
def Style.json : Style where
  notANumber := "NaN"
  infinity := "Infinity"

def zeros (n : Nat) : List Char := List.replicate n '0'

def positional (digits : List Char) (point : Int) : List Char :=
  if point ≤ 0 then ['0', '.'] ++ zeros (-point).toNat ++ digits
  else
    let p := point.toNat
    if digits.length ≤ p then digits ++ zeros (p - digits.length) ++ ['.', '0']
    else digits.take p ++ '.' :: digits.drop p

def exponential (digits : List Char) (point : Int) : List Char :=
  let e := point - 1
  let size := Nat.toDigits 10 e.natAbs
  let fraction := digits.drop 1
  digits.take 1 ++ (if fraction.isEmpty then [] else '.' :: fraction) ++
    ['e', if e < 0 then '-' else '+'] ++ zeros (2 - size.length) ++ size

def Style.writeDecimal (style : Style) (d : Scaled) : List Char :=
  let digits := Nat.toDigits 10 d.digits
  let point := (digits.length : Int) + d.exponent
  if style.lowestPoint < point && point ≤ style.highestPoint then positional digits point
  else exponential digits point

def signed (negative : Bool) (text : List Char) : List Char :=
  if negative then '-' :: text else text

def Style.write (style : Style) (x : Float) : String :=
  match classify x.toBits with
  | .notANumber => style.notANumber
  | .infinite negative => String.ofList (signed negative style.infinity.toList)
  | .finite parts => String.ofList (signed parts.negative (style.writeDecimal parts.shortest))

end DeclDocs.Decimal
