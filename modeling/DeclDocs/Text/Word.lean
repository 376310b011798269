import DeclDocs.Text.WordTable

/-!
Word characters: letters, numbers and the underscore, in any script. The ASCII part is decided
without the table, so a name made of ASCII letters never looks at it.
-/
namespace DeclDocs.Text

/-- Whether a code point lies in one of the closed intervals. -/
def inIntervals (intervals : List (Nat × Nat)) (n : Nat) : Bool :=
  intervals.any fun interval => interval.1 ≤ n && n ≤ interval.2

def isAsciiLetter (c : Char) : Bool :=
  ('A' ≤ c && c ≤ 'Z') || ('a' ≤ c && c ≤ 'z')

def isAsciiDigit (c : Char) : Bool := '0' ≤ c && c ≤ '9'

def isWord (c : Char) : Bool :=
  if c.toNat < 128 then isAsciiLetter c || isAsciiDigit c || c == '_'
  else inIntervals wordIntervals c.toNat

end DeclDocs.Text
