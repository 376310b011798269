import DeclDocs.Decimal.Digits
import DeclDocs.Json.Basic

/-!
The tokens of a JSON text. The scanner passes over the characters once; inside a word or a string
it remembers what it has read, newest first. A word is a longest run of characters that occur in
numbers and names of constants, and is read as a whole.
-/
namespace DeclDocs.Json

open Text Decimal

inductive Token where
  | openBrace
  | closeBrace
  | openBracket
  | closeBracket
  | colon
  | comma
  | scalar (value : Json)
  deriving Inhabited

/-- Where the scanner stands. A string is kept as code points and UTF-16 units; `unit left value`
is inside a numeric escape. -/
inductive Mode where
  | between
  | word (read : List Char)
  | string (read : List Nat)
  | escape (read : List Nat)
  | unit (read : List Nat) (left value : Nat)

def isSpace (c : Char) : Bool := c == ' ' || c == '\t' || c == '\n' || c == '\r'

def isWordChar (c : Char) : Bool :=
  isAsciiLetter c || isAsciiDigit c || c == '-' || c == '+' || c == '.'

def punctuation? : Char → Option Token
  | '{' => some .openBrace
  | '}' => some .closeBrace
  | '[' => some .openBracket
  | ']' => some .closeBracket
  | ':' => some .colon
  | ',' => some .comma
  | _ => none

/-- A whole part has no leading zero unless it is zero itself. -/
def isWholePart (digits : List Char) : Bool :=
  !digits.isEmpty && (digits.length == 1 || digits.head? != some '0')

/-- An exponent: an optional sign and digits. -/
def exponent? : List Char → Option Int
  | '-' :: digits =>
      if !digits.isEmpty && digits.all isAsciiDigit then some (-(digitsValue digits : Int))
      else none
  | '+' :: digits =>
      if !digits.isEmpty && digits.all isAsciiDigit then some (digitsValue digits) else none
  | digits =>
      if !digits.isEmpty && digits.all isAsciiDigit then some (digitsValue digits) else none

/-- An unsigned number: a whole part, an optional fraction and an optional exponent. -/
def unsigned? (negative : Bool) (text : List Char) : Option Json :=
  let whole := text.takeWhile isAsciiDigit
  let rest := text.dropWhile isAsciiDigit
  if !isWholePart whole then none
  else
    match rest with
    | [] => some (.int (if negative then -(digitsValue whole : Int) else digitsValue whole))
    | '.' :: tail =>
        let fraction := tail.takeWhile isAsciiDigit
        if fraction.isEmpty then none
        else
          match tail.dropWhile isAsciiDigit with
          | [] =>
              some (.float (negate negative (scientific (whole ++ fraction) (-fraction.length))))
          | e :: power =>
              if e == 'e' || e == 'E' then
                (exponent? power).map fun p =>
                  .float (negate negative (scientific (whole ++ fraction) (p - fraction.length)))
              else none
    | e :: power =>
        if e == 'e' || e == 'E' then
          (exponent? power).map fun p => .float (negate negative (scientific whole p))
        else none

/-- The constant or number that a word spells. -/
def wordValue? (word : List Char) : Option Json :=
  match String.ofList word with
  | "null" => some .null
  | "true" => some (.bool true)
  | "false" => some (.bool false)
  | "NaN" => some (.float (0.0 / 0.0))
  | "Infinity" => some (.float (1.0 / 0.0))
  | "-Infinity" => some (.float (-1.0 / 0.0))
  | _ =>
      match word with
      | '-' :: rest => unsigned? true rest
      | rest => unsigned? false rest

def escapeValue? : Char → Option Nat
  | '"' => some 0x22
  | '\\' => some 0x5C
  | '/' => some 0x2F
  | 'b' => some 0x08
  | 'f' => some 0x0C
  | 'n' => some 0x0A
  | 'r' => some 0x0D
  | 't' => some 0x09
  | _ => none

def isHighSurrogate (n : Nat) : Bool := 0xD800 ≤ n && n ≤ 0xDBFF

def isLowSurrogate (n : Nat) : Bool := 0xDC00 ≤ n && n ≤ 0xDFFF

/-- Join surrogate pairs, given a high surrogate just read. A surrogate that stands alone has no
character and is replaced. -/
def joinFrom : Option Nat → List Nat → List Char
  | none, [] => []
  | some _, [] => [Char.ofNat 0xFFFD]
  | none, n :: rest =>
      if isHighSurrogate n then joinFrom (some n) rest
      else if isLowSurrogate n then Char.ofNat 0xFFFD :: joinFrom none rest
      else Char.ofNat n :: joinFrom none rest
  | some high, n :: rest =>
      if isLowSurrogate n then
        Char.ofNat (0x10000 + (high - 0xD800) * 0x400 + (n - 0xDC00)) :: joinFrom none rest
      else if isHighSurrogate n then Char.ofNat 0xFFFD :: joinFrom (some n) rest
      else Char.ofNat 0xFFFD :: Char.ofNat n :: joinFrom none rest

def joinUnits (units : List Nat) : List Char := joinFrom none units

def stringToken (read : List Nat) : Token :=
  .scalar (.str (String.ofList (joinUnits read.reverse)))

/-- Scan from a mode; `none` if a character cannot stand where it does. -/
def scanFrom : Mode → List Char → Option (List Token)
  | .between, [] => some []
  | .word read, [] => (wordValue? read.reverse).map fun v => [.scalar v]
  | .string _, [] => none
  | .escape _, [] => none
  | .unit _ _ _, [] => none
  | .between, c :: rest =>
      if isSpace c then scanFrom .between rest
      else if c == '"' then scanFrom (.string []) rest
      else if isWordChar c then scanFrom (.word [c]) rest
      else
        match punctuation? c with
        | some token => (scanFrom .between rest).map (token :: ·)
        | none => none
  | .word read, c :: rest =>
      if isWordChar c then scanFrom (.word (c :: read)) rest
      else
        match wordValue? read.reverse with
        | none => none
        | some v =>
            if isSpace c then (scanFrom .between rest).map (.scalar v :: ·)
            else
              match punctuation? c with
              | some token => (scanFrom .between rest).map fun ts => .scalar v :: token :: ts
              | none => none
  | .string read, c :: rest =>
      if c == '"' then (scanFrom .between rest).map (stringToken read :: ·)
      else if c == '\\' then scanFrom (.escape read) rest
      else if c.toNat < 0x20 then none
      else scanFrom (.string (c.toNat :: read)) rest
  | .escape read, c :: rest =>
      if c == 'u' then scanFrom (.unit read 4 0) rest
      else
        match escapeValue? c with
        | some n => scanFrom (.string (n :: read)) rest
        | none => none
  | .unit read left value, c :: rest =>
      match hexValue? c with
      | none => none
      | some d =>
          let value := value * 16 + d
          if left ≤ 1 then scanFrom (.string (value :: read)) rest
          else scanFrom (.unit read (left - 1) value) rest

def tokens? (text : List Char) : Option (List Token) := scanFrom .between text

end DeclDocs.Json
