/-!
The shortest decimal that reads back as a given binary floating-point number. A finite number is
`m * 2 ^ q`. The decimals that round to it fill an interval around it whose ends belong to it
exactly if `m` is even. For one digit, two digits, and so on up to seventeen, the two neighbours
of the number on that decimal grid are tried; the first grid with a neighbour in the interval
wins, and of two such neighbours the nearer one, the even one if both are equally near.
-/
namespace DeclDocs.Decimal

/-- A decimal `digits * 10 ^ exponent`. -/
structure Scaled where
  digits : Nat
  exponent : Int
  deriving DecidableEq, Repr

/-- The parts of a double: sign, mantissa with its hidden bit, binary exponent, and whether the next
smaller number is only half as far away as the next larger one. -/
structure Parts where
  negative : Bool
  mantissa : Nat
  exponent : Int
  closerBelow : Bool
  deriving DecidableEq, Repr

inductive Kind where
  | finite (parts : Parts)
  | infinite (negative : Bool)
  | notANumber
  deriving DecidableEq, Repr

def classify (bits : UInt64) : Kind :=
  let n := bits.toNat
  let negative := n / Nat.pow 2 63 % 2 == 1
  let biased : Nat := n / Nat.pow 2 52 % Nat.pow 2 11
  let fraction : Nat := n % Nat.pow 2 52
  if biased == 2047 then if fraction == 0 then .infinite negative else .notANumber
  else if biased == 0 then .finite ⟨negative, fraction, -1074, false⟩
  else
    .finite ⟨negative, fraction + Nat.pow 2 52, (biased : Int) - 1075,
      fraction == 0 && biased != 1⟩

/-- A number with the ends of its rounding interval, all over one denominator. -/
structure Window where
  low : Nat
  value : Nat
  high : Nat
  denominator : Nat
  closed : Bool
  deriving DecidableEq, Repr

def Parts.window (p : Parts) : Window :=
  let low := 4 * p.mantissa - (if p.closerBelow then 1 else 2)
  let value := 4 * p.mantissa
  let high := 4 * p.mantissa + 2
  let e := p.exponent - 2
  let up := Nat.pow 2 e.toNat
  ⟨low * up, value * up, high * up, Nat.pow 2 (-e).toNat, p.mantissa % 2 == 0⟩

def digitCount (n : Nat) : Nat := (Nat.toDigits 10 n).length

/-- The place of the decimal point: the least `p` with `value < 10 ^ p`. -/
def Window.point (w : Window) : Int :=
  if w.denominator ≤ w.value then (digitCount (w.value / w.denominator) : Int)
  else
    let t := digitCount (w.denominator / w.value)
    if w.denominator ≤ w.value * Nat.pow 10 (t - 1) then 2 - (t : Int) else 1 - (t : Int)

/-- The same window measured in units of `10 ^ e`. -/
def Window.inUnits (w : Window) (e : Int) : Window :=
  let down := Nat.pow 10 (-e).toNat
  ⟨w.low * down, w.value * down, w.high * down, w.denominator * Nat.pow 10 e.toNat, w.closed⟩

def Window.holds (w : Window) (n : Nat) : Bool :=
  let scaled := n * w.denominator
  if w.closed then w.low ≤ scaled && scaled ≤ w.high else w.low < scaled && scaled < w.high

def distance (a b : Nat) : Nat := (a - b) + (b - a)

/-- The nearer neighbour on the grid of whole units that reads back. -/
def Window.nearest? (w : Window) : Option Nat :=
  let below := w.value / w.denominator
  let above := below + 1
  match w.holds below, w.holds above with
  | false, false => none
  | true, false => some below
  | false, true => some above
  | true, true =>
      let db := distance w.value (below * w.denominator)
      let da := distance w.value (above * w.denominator)
      if db < da then some below
      else if da < db then some above
      else some (if below % 2 == 0 then below else above)

/-- Try grids of `count`, `count + 1`, … digits, `left` of them. -/
def Window.search (w : Window) (point : Int) : Nat → Nat → Scaled
  | _, 0 => ⟨w.value / w.denominator, 0⟩
  | count, left + 1 =>
      let e := point - count
      match (w.inUnits e).nearest? with
      | some n => ⟨n, e⟩
      | none => w.search point (count + 1) left

/-- Move trailing zeros into the exponent, at most `left` of them. -/
def Scaled.stripZeros : Nat → Scaled → Scaled
  | 0, d => d
  | left + 1, d =>
      if d.digits % 10 == 0 && d.digits != 0 then stripZeros left ⟨d.digits / 10, d.exponent + 1⟩
      else d

def Parts.shortest (p : Parts) : Scaled :=
  if p.mantissa == 0 then ⟨0, 0⟩
  else
    let w := p.window
    Scaled.stripZeros 20 (w.search w.point 1 17)

end DeclDocs.Decimal
