import DeclDocs.Decimal.Layout
import DeclDocs.Json.Basic
import DeclDocs.Text.Quoted

/-!
JSON texts. On one line, items are separated by a comma and a blank, and characters outside ASCII
stand as they are. In the indented form every item has a line of its own, fields are sorted by name,
and everything that is not a visible ASCII character is escaped.
-/
namespace DeclDocs.Json

open Text

/-- A UTF-16 unit as a numeric escape. -/
def unitEscape (n : Nat) : List Char := '\\' :: 'u' :: Quoted.hex 4 n

/-- The escapes that both forms share. -/
def shortEscape? : Char → Option (List Char)
  | '"' => some ['\\', '"']
  | '\\' => some ['\\', '\\']
  | '\n' => some ['\\', 'n']
  | '\r' => some ['\\', 'r']
  | '\t' => some ['\\', 't']
  | '\x08' => some ['\\', 'b']
  | '\x0c' => some ['\\', 'f']
  | _ => none

def escapeChar (c : Char) : List Char :=
  match shortEscape? c with
  | some text => text
  | none => if c.toNat < 0x20 then unitEscape c.toNat else [c]

def escapeAscii (c : Char) : List Char :=
  match shortEscape? c with
  | some text => text
  | none =>
      let n := c.toNat
      if 0x20 ≤ n && n < 0x7F then [c]
      else if n < 0x10000 then unitEscape n
      else
        unitEscape (0xD800 + (n - 0x10000) / 0x400) ++ unitEscape (0xDC00 + (n - 0x10000) % 0x400)

def quote (escape : Char → List Char) (text : String) : List Char :=
  '"' :: (text.toList.flatMap escape ++ ['"'])

def writeInt (n : Int) : List Char := (toString n).toList

/-- The text of a value that is not a container. -/
def writeScalar (escape : Char → List Char) : Json → List Char
  | .null => "null".toList
  | .bool b => (if b then "true" else "false").toList
  | .int n => writeInt n
  | .float x => (Decimal.Style.json.write x).toList
  | .str s => quote escape s
  | .arr _ => []
  | .obj _ => []

mutual

/-- The one-line form. -/
def compact : Json → List Char
  | .arr [] => ['[', ']']
  | .arr (v :: rest) => '[' :: (compact v ++ compactItems rest ++ [']'])
  | .obj [] => ['\x7b', '\x7d']
  | .obj ((n, v) :: rest) =>
      '\x7b' :: (quote escapeChar n ++ [':', ' '] ++ compact v ++ compactFields rest ++ ['\x7d'])
  | v => writeScalar escapeChar v

def compactItems : List Json → List Char
  | [] => []
  | v :: rest => ',' :: ' ' :: (compact v ++ compactItems rest)

def compactFields : List (String × Json) → List Char
  | [] => []
  | (n, v) :: rest =>
      ',' :: ' ' :: (quote escapeChar n ++ [':', ' '] ++ compact v ++ compactFields rest)

end

/-- Insert a field before the first one with a greater name. -/
def insertSorted (name : String) (value : Json) : List (String × Json) → List (String × Json)
  | [] => [(name, value)]
  | (n, v) :: rest =>
      if name < n then (name, value) :: (n, v) :: rest else (n, v) :: insertSorted name value rest

mutual

/-- The same value with the fields of every object in increasing order of their names. -/
def sortFields : Json → Json
  | .arr items => .arr (sortItems items)
  | .obj fields => .obj (sortMembers fields)
  | v => v

def sortItems : List Json → List Json
  | [] => []
  | v :: rest => sortFields v :: sortItems rest

def sortMembers : List (String × Json) → List (String × Json)
  | [] => []
  | (n, v) :: rest => insertSorted n (sortFields v) (sortMembers rest)

end

def lineStart (depth : Nat) : List Char := '\n' :: List.replicate (2 * depth) ' '

mutual

/-- The indented form of a value whose line is indented by `depth` steps. -/
def indentedAt (depth : Nat) : Json → List Char
  | .arr [] => ['[', ']']
  | .arr (v :: rest) =>
      '[' :: (lineStart (depth + 1) ++ indentedAt (depth + 1) v ++ indentedItems (depth + 1) rest ++
        lineStart depth ++ [']'])
  | .obj [] => ['\x7b', '\x7d']
  | .obj ((n, v) :: rest) =>
      '\x7b' :: (lineStart (depth + 1) ++ quote escapeAscii n ++ [':', ' '] ++
        indentedAt (depth + 1) v ++ indentedFields (depth + 1) rest ++ lineStart depth ++ ['\x7d'])
  | v => writeScalar escapeAscii v

def indentedItems (depth : Nat) : List Json → List Char
  | [] => []
  | v :: rest => ',' :: (lineStart depth ++ indentedAt depth v ++ indentedItems depth rest)

def indentedFields (depth : Nat) : List (String × Json) → List Char
  | [] => []
  | (n, v) :: rest =>
      ',' :: (lineStart depth ++ quote escapeAscii n ++ [':', ' '] ++ indentedAt depth v ++
        indentedFields depth rest)

end

def indented (value : Json) : List Char := indentedAt 0 (sortFields value)

end DeclDocs.Json
