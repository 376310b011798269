import DeclDocs.Yaml.Scalar

/-!
The tokens of a YAML text. Indentation is turned into tokens that begin and end blocks. A scalar
or a bracket that begins a line, or stands where a key may stand, is remembered as a possible key;
a colon on the same line then puts the mark of a key in front of it.
-/
namespace DeclDocs.Yaml

inductive Token where
  | documentStart
  | documentEnd
  | blockSequence
  | blockMapping
  | blockEnd
  | entry
  | key
  | value
  | comma
  | openSequence
  | closeSequence
  | openMapping
  | closeMapping
  | scalar (text : List Char) (plain : Bool)
  deriving DecidableEq, Repr

/-- A token that may turn out to begin a key. A required key begins a line of a block mapping. -/
structure PossibleKey where
  position : Nat
  required : Bool
  index : Nat
  line : Nat
  column : Nat

/-- Where the scan stands. Possible keys are kept for each level of brackets, the innermost first,
and the tokens newest first. -/
structure Scan where
  cursor : Cursor
  indents : List Nat := []
  keyAllowed : Bool := true
  key : Option PossibleKey := none
  outerKeys : List (Option PossibleKey) := []
  tokens : List Token := []

namespace Scan

def inFlow (s : Scan) : Bool := !s.outerKeys.isEmpty

def add (s : Scan) (token : Token) : Scan := { s with tokens := token :: s.tokens }

def skip (s : Scan) (n : Nat) : Scan := { s with cursor := s.cursor.skip n }

/-- Pass over spaces, comments and line breaks. Outside brackets a key may begin on a new line. -/
def toNextToken : Nat → Scan → Scan
  | 0, s => s
  | fuel + 1, s =>
      let c := s.cursor.skipWhile fun d => d == ' '
      let c := if c.peek == some '#' then c.skipWhile fun d => !isBreak d else c
      match c.peek with
      | some first =>
          if isBreak first then
            toNextToken fuel { s with cursor := c.next, keyAllowed := s.keyAllowed || !s.inFlow }
          else { s with cursor := c }
      | none => { s with cursor := c }

/-- A key and its colon stand on one line and near each other. -/
def isStale (c : Cursor) (key : PossibleKey) : Bool :=
  key.line != c.line || 1024 < c.index - key.index

def keepFresh (c : Cursor) : Option PossibleKey → Option (Option PossibleKey)
  | none => some none
  | some key => if !isStale c key then some (some key) else if key.required then none else some none

/-- Forget the keys that can no longer be; a required one must not be forgotten. -/
def dropStale (s : Scan) : Option Scan := do
  let key ← keepFresh s.cursor s.key
  let outerKeys ← s.outerKeys.mapM (keepFresh s.cursor)
  return { s with key, outerKeys }

/-- Forget the possible key of this level. -/
def dropKey (s : Scan) : Option Scan :=
  if s.key.any PossibleKey.required then none else some { s with key := none }

def isRequired (s : Scan) : Bool := !s.inFlow && s.indents.head? == some s.cursor.column

/-- Remember that a key may begin here. -/
def saveKey (s : Scan) : Option Scan :=
  if s.keyAllowed then do
    let dropped ← s.dropKey
    let c := s.cursor
    return { dropped with key := some ⟨s.tokens.length, s.isRequired, c.index, c.line, c.column⟩ }
  else some s

/-- End the blocks that are indented more than a column. -/
def endBlocks (column : Nat) : List Nat → List Token → List Nat × List Token
  | [], tokens => ([], tokens)
  | indent :: rest, tokens =>
      if column < indent then endBlocks column rest (.blockEnd :: tokens)
      else (indent :: rest, tokens)

def unwind (s : Scan) : Scan :=
  if s.inFlow then s
  else
    let (indents, tokens) := endBlocks s.cursor.column s.indents s.tokens
    { s with indents, tokens }

/-- End all blocks. -/
def unwindAll (s : Scan) : Scan :=
  if s.inFlow then s
  else { s with indents := [], tokens := s.indents.map (fun _ => Token.blockEnd) ++ s.tokens }

/-- Begin a block of a kind here, if the column is deeper than that of the block around. -/
def openBlock (s : Scan) (token : Token) : Scan :=
  if !s.inFlow && (s.indents.head?.all fun indent => indent < s.cursor.column) then
    { s with indents := s.cursor.column :: s.indents, tokens := token :: s.tokens }
  else s

def separator (s : Scan) (token : Token) : Option Scan := do
  let s ← s.unwindAll.dropKey
  return ({ s with keyAllowed := false }.add token).skip 3

def openFlow (s : Scan) (token : Token) : Option Scan := do
  let s ← s.saveKey
  let inside := { s with key := none, outerKeys := s.key :: s.outerKeys, keyAllowed := true }
  return (inside.add token).skip 1

def closeFlow (s : Scan) (token : Token) : Option Scan := do
  let s ← s.dropKey
  match s.outerKeys with
  | [] => none
  | key :: outerKeys => return ({ s with key, outerKeys, keyAllowed := false }.add token).skip 1

def comma (s : Scan) : Option Scan := do
  let s ← s.dropKey
  return ({ s with keyAllowed := true }.add .comma).skip 1

def entry (s : Scan) : Option Scan := do
  if !s.inFlow && !s.keyAllowed then none
  else
    let s ← (s.openBlock .blockSequence).dropKey
    return ({ s with keyAllowed := true }.add .entry).skip 1

def explicitKey (s : Scan) : Option Scan := do
  if !s.inFlow && !s.keyAllowed then none
  else
    let s ← (s.openBlock .blockMapping).dropKey
    return ({ s with keyAllowed := !s.inFlow }.add .key).skip 1

/-- Insert tokens, newest first, behind the oldest ones. -/
def insertBehind (count : Nat) (new tokens : List Token) : List Token :=
  let later := tokens.length - count
  tokens.take later ++ new ++ tokens.drop later

/-- A colon: it marks the possible key of this level, or stands for an empty one. -/
def value (s : Scan) : Option Scan :=
  match s.key with
  | some key =>
      let begins := !s.inFlow && (s.indents.head?.all fun indent => indent < key.column)
      let marks := if begins then [Token.key, Token.blockMapping] else [Token.key]
      some (({ s with
        key := none
        keyAllowed := false
        indents := if begins then key.column :: s.indents else s.indents
        tokens := insertBehind key.position marks s.tokens }.add .value).skip 1)
  | none =>
      if !s.inFlow && !s.keyAllowed then none
      else
        let s := s.openBlock .blockMapping
        some (({ s with keyAllowed := !s.inFlow }.add .value).skip 1)

def quoted (s : Scan) (double : Bool) : Option Scan := do
  let s ← s.saveKey
  let (text, cursor) ← quotedScalar double s.cursor.next
  return { s with cursor, keyAllowed := false }.add (.scalar text false)

def plain (s : Scan) : Option Scan := do
  let s ← s.saveKey
  let indent := (s.indents.head?.map (· + 1)).getD 0
  let read := plainScalar s.inFlow indent s.cursor
  return { s with cursor := read.cursor, keyAllowed := read.crossed }.add (.scalar read.text true)

/-- Characters that cannot begin a plain scalar. -/
def indicators : List Char :=
  ['-', '?', ':', ',', '[', ']', '\x7b', '\x7d', '#', '&', '*', '!', '|', '>', '\x27', '\x22', '%',
   '@', '\x60']

/-- A plain scalar begins with no indicator, except a dash, and outside brackets a question mark
or a colon, right before a character of the same word. -/
def beginsPlain (flow : Bool) (c : Char) (following : Option Char) : Bool :=
  (!endsWord (some c) && !indicators.contains c) ||
    (!endsWord following && (c == '-' || (!flow && (c == '?' || c == ':'))))

/-- Read the token that begins with the next character. -/
def token (s : Scan) (c : Char) (following : Option Char) : Option Scan :=
  let atLineStart := s.cursor.column == 0
  if atLineStart && s.cursor.atSeparator '-' then s.separator .documentStart
  else if atLineStart && s.cursor.atSeparator '.' then s.separator .documentEnd
  else if c == '[' then s.openFlow .openSequence
  else if c == '\x7b' then s.openFlow .openMapping
  else if c == ']' then s.closeFlow .closeSequence
  else if c == '\x7d' then s.closeFlow .closeMapping
  else if c == ',' then s.comma
  else if c == '-' && endsWord following then s.entry
  else if c == '?' && (s.inFlow || endsWord following) then s.explicitKey
  else if c == ':' && (s.inFlow || endsWord following) then s.value
  else if c == '\x27' then s.quoted false
  else if c == '\x22' then s.quoted true
  else if beginsPlain s.inFlow c following then s.plain
  else none

def run : Nat → Scan → Option (List Token)
  | 0, _ => none
  | fuel + 1, s => do
      let s ← (s.toNextToken (s.cursor.rest.length + 1)).dropStale
      let s := s.unwind
      match s.cursor.rest with
      | [] =>
          let s ← s.unwindAll.dropKey
          return s.tokens.reverse
      | c :: rest => run fuel (← s.token c rest.head?)

end Scan

/-- The tokens of a text, `none` if it is malformed. -/
def tokens? (text : List Char) : Option (List Token) :=
  if text.all isAllowed then
    let text := if text.head? == some byteOrderMark then text.drop 1 else text
    Scan.run (text.length + 1) { cursor := ⟨text, 0, 0, 0⟩ }
  else none

end DeclDocs.Yaml
