import DeclDocs.Decimal.Digits
import DeclDocs.Yaml.Cursor

/-!
The text of scalars. A plain scalar ends where something of the structure begins; a quoted one
ends at its quote. Line breaks inside are folded: a single one becomes a space, and of several the
first is dropped.
-/
namespace DeclDocs.Yaml

/-- What a run of line breaks stands for: the first break and those after it. -/
def foldBreaks (first : Char) (later : List Char) : List Char :=
  if breakText first != '\n' then breakText first :: later
  else if later.isEmpty then [' ']
  else later

/-- Characters that end a plain scalar, given what follows: a colon does before a blank. Inside
brackets commas, brackets and question marks end it too. -/
def endsPlain (flow : Bool) (c : Char) (following : Option Char) : Bool :=
  endsWord (some c) ||
    (c == ':' && (endsWord following ||
      (flow && following.any fun d => [',', '[', ']', '\x7b', '\x7d'].contains d))) ||
    (flow && [',', '?', '[', ']', '\x7b', '\x7d'].contains c)

/-- The number of characters up to the next blank or end of a plain scalar. -/
def plainRun (flow : Bool) : List Char → Nat
  | [] => 0
  | c :: rest => if endsPlain flow c rest.head? then 0 else plainRun flow rest + 1

/-- The blank between two words of a plain scalar. No text means that the scalar ends. -/
structure Gap where
  text : List Char
  cursor : Cursor
  crossed : Bool

/-- Pass over blank lines and spaces, keeping the line breaks; stop at a separator of documents. -/
def blankLines : Nat → Cursor → List Char × Cursor × Bool
  | 0, c => ([], c, false)
  | fuel + 1, c =>
      match c.peek with
      | some first =>
          if first == ' ' then blankLines fuel c.next
          else if isBreak first then
            if c.next.atAnySeparator then ([breakText first], c.next, true)
            else
              let (breaks, last, ended) := blankLines fuel c.next
              (breakText first :: breaks, last, ended)
          else ([], c, false)
      | none => ([], c, false)

def gapAfter (c : Cursor) : Gap :=
  let spaces := c.rest.takeWhile fun d => d == ' '
  let c := c.skip spaces.length
  match c.peek with
  | some first =>
      if isBreak first then
        if c.next.atAnySeparator then ⟨[], c.next, true⟩
        else
          let (breaks, last, ended) := blankLines c.rest.length c.next
          ⟨if ended then [] else foldBreaks first breaks, last, true⟩
      else ⟨spaces, c, false⟩
  | none => ⟨spaces, c, false⟩

/-- A scalar that has been read. -/
structure ScalarRead where
  text : List Char
  cursor : Cursor
  /-- Whether the place reached is on a new line, so that a key may begin there. -/
  crossed : Bool

/-- Read the words of a plain scalar; outside brackets it ends on a line that is not indented
enough. -/
def readPlain (flow : Bool) (indent : Nat) : Nat → ScalarRead → List Char → ScalarRead
  | 0, read, _ => read
  | fuel + 1, read, gap =>
      let c := read.cursor
      let run := plainRun flow c.rest
      if c.peek == some '#' || run == 0 then read
      else
        let text := read.text ++ gap ++ c.rest.take run
        let after := gapAfter (c.skip run)
        let read := ⟨text, after.cursor, after.crossed⟩
        if after.text.isEmpty || after.cursor.peek == some '#' ||
            (!flow && after.cursor.column < indent) then read
        else readPlain flow indent fuel read after.text

def plainScalar (flow : Bool) (indent : Nat) (c : Cursor) : ScalarRead :=
  readPlain flow indent (c.rest.length + 1) ⟨[], c, false⟩ []

/-- Line breaks inside a quoted scalar, with the blanks around them. -/
def quotedBreaks : Nat → Cursor → Option (List Char × Cursor)
  | 0, c => some ([], c)
  | fuel + 1, c =>
      if c.atAnySeparator then none
      else
        let c := c.skipWhile fun d => d == ' ' || d == '\t'
        match c.peek with
        | some first =>
            if isBreak first then do
              let (breaks, last) ← quotedBreaks fuel c.next
              return (breakText first :: breaks, last)
            else some ([], c)
        | none => some ([], c)

def escapes : List (Char × Nat) :=
  [('0', 0x0), ('a', 0x7), ('b', 0x8), ('t', 0x9), ('\t', 0x9), ('n', 0xA), ('v', 0xB), ('f', 0xC),
   ('r', 0xD), ('e', 0x1B), (' ', 0x20), ('\x22', 0x22), ('\\', 0x5C), ('/', 0x2F), ('N', 0x85),
   ('_', 0xA0), ('L', 0x2028), ('P', 0x2029)]

/-- The number of hexadecimal digits after an escape letter. -/
def escapeWidth? : Char → Option Nat
  | 'x' => some 2
  | 'u' => some 4
  | 'U' => some 8
  | _ => none

/-- The character of a code point; one that is no character is replaced. -/
def charOf (n : Nat) : Char := if n.isValidChar then Char.ofNat n else Char.ofNat 0xFFFD

/-- What stands after a backslash. -/
def readEscape (c : Cursor) : Option (List Char × Cursor) := do
  let letter ← c.peek
  match escapes.lookup letter with
  | some n => return ([Char.ofNat n], c.next)
  | none =>
      match escapeWidth? letter with
      | some width =>
          let digits := c.next.rest.take width
          if digits.length == width && digits.all fun d => (Decimal.hexValue? d).isSome then
            return ([charOf (Decimal.numberIn 16 digits)], c.skip (width + 1))
          else none
      | none => if isBreak letter then quotedBreaks c.rest.length c.next else none

/-- Read a quoted scalar up to its closing quote. In single quotes a quote is written twice; in
double quotes a backslash begins an escape. -/
def readQuoted (double : Bool) : Nat → Cursor → Option (List Char × Cursor)
  | 0, _ => none
  | fuel + 1, c => do
      let first ← c.peek
      let more (text : List Char) (c : Cursor) : Option (List Char × Cursor) := do
        let (rest, last) ← readQuoted double fuel c
        return (text ++ rest, last)
      if first == (if double then '\x22' else '\x27') then
        if !double && c.next.peek == some '\x27' then more ['\x27'] (c.skip 2)
        else return ([], c.next)
      else if double && first == '\\' then
        let (text, last) ← readEscape c.next
        more text last
      else if endsWord (some first) then
        let blanks := c.rest.takeWhile fun d => d == ' ' || d == '\t'
        let c := c.skip blanks.length
        let stop ← c.peek
        if isBreak stop then
          let (breaks, last) ← quotedBreaks c.rest.length c.next
          more (foldBreaks stop breaks) last
        else more blanks c
      else more [first] c.next

def quotedScalar (double : Bool) (c : Cursor) : Option (List Char × Cursor) :=
  readQuoted double (c.rest.length + 1) c

end DeclDocs.Yaml
