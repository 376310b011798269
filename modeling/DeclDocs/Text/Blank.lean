/-!
White space. A character is blank by the rule that line ends, the four separators before the space,
the next-line character and every space and separator of the standard count, while zero-width
characters do not. Trimming removes blanks from the ends of a text only.
-/
namespace DeclDocs.Text

def isBlank (c : Char) : Bool :=
  let n := c.toNat
  (0x09 ≤ n && n ≤ 0x0D) || (0x1C ≤ n && n ≤ 0x20) || n == 0x85 || n == 0xA0 || n == 0x1680 ||
    (0x2000 ≤ n && n ≤ 0x200A) || n == 0x2028 || n == 0x2029 || n == 0x202F || n == 0x205F ||
    n == 0x3000

def trimStart (text : List Char) : List Char := text.dropWhile isBlank

def trimEnd (text : List Char) : List Char := (text.reverse.dropWhile isBlank).reverse

def trim (text : List Char) : List Char := trimEnd (trimStart text)

/-- Trim a string at both ends. -/
def trimString (text : String) : String := String.ofList (trim text.toList)

/-- A text of blanks only, the empty text among them, trims to nothing. -/
def allBlank (text : List Char) : Bool := text.all isBlank

end DeclDocs.Text
