import DeclDocs.Text.PrintableTable
import DeclDocs.Text.Word

/-!
Texts quoted for messages. Single quotes are used unless the text has a single quote and no double
one. The quote, the backslash, line ends, tabs and whatever is not printable are escaped.
-/
namespace DeclDocs.Text.Quoted

def isPrintable (c : Char) : Bool :=
  if c.toNat < 128 then 0x20 ≤ c.toNat && c.toNat < 0x7F
  else !inIntervals unprintableIntervals c.toNat

/-- A number in lower-case hexadecimal, filled with zeros to a width. -/
def hex (width n : Nat) : List Char :=
  let digits := Nat.toDigits 16 n
  List.replicate (width - digits.length) '0' ++ digits

def singleQuote : Char := '\x27'
def doubleQuote : Char := '\x22'

def chooseQuote (text : List Char) : Char :=
  if text.contains singleQuote && !text.contains doubleQuote then doubleQuote else singleQuote

def escape (quote c : Char) : List Char :=
  if c = quote || c = '\\' then ['\\', c]
  else if c = '\t' then ['\\', 't']
  else if c = '\n' then ['\\', 'n']
  else if c = '\r' then ['\\', 'r']
  else if isPrintable c then [c]
  else if c.toNat < 0x100 then '\\' :: 'x' :: hex 2 c.toNat
  else if c.toNat < 0x10000 then '\\' :: 'u' :: hex 4 c.toNat
  else '\\' :: 'U' :: hex 8 c.toNat

def encode (text : List Char) : List Char :=
  let quote := chooseQuote text
  quote :: (text.flatMap (escape quote) ++ [quote])

def escapeOctet (quote : Char) (octet : UInt8) : List Char :=
  if octet < 0x80 then escape quote (Char.ofUInt8 octet)
  else '\\' :: 'x' :: hex 2 octet.toNat

def encodeOctets (octets : List UInt8) : List Char :=
  let quote := chooseQuote (octets.map Char.ofUInt8)
  quote :: (octets.flatMap (escapeOctet quote) ++ [quote])

end DeclDocs.Text.Quoted

namespace DeclDocs.Text

/-- A text in quotes, as messages show it. -/
def quoted (text : String) : String := String.ofList (Quoted.encode text.toList)

/-- Octets in quotes behind a mark of their own. Those of the upper half are always escaped. -/
def quotedOctets (octets : List UInt8) : String :=
  String.ofList ('b' :: Quoted.encodeOctets octets)

/-- A list of texts in brackets, each in quotes. -/
def quotedList (texts : List String) : String :=
  "[" ++ String.intercalate ", " (texts.map quoted) ++ "]"

end DeclDocs.Text
