import DeclDocs.Doc.Section
import DeclDocs.Text.Blank
import DeclDocs.Text.Split

/-!
Comment lines. A documentation comment starts with its language's marker, and with no further
character of the marker's kind behind it. Cleaning a section drops blank lines, the markers and the
section's own tags, and joins what is left with single blanks.
-/
namespace DeclDocs.Doc

open Text

/-- A marker of documentation lines; it has at least one character. -/
structure Marker where
  lead : List Char
  last : Char
  deriving DecidableEq, Repr

namespace Marker

def chars (marker : Marker) : List Char := marker.lead ++ [marker.last]

def ofChars? (text : List Char) : Option Marker :=
  match text.reverse with
  | [] => none
  | last :: lead => some ⟨lead.reverse, last⟩

end Marker

/-- A run of one more marker character makes an ordinary comment. -/
def isDocComment (marker : Marker) (text : List Char) : Bool :=
  let trimmed := trim text
  marker.chars.isPrefixOf trimmed && !(marker.chars ++ [marker.last]).isPrefixOf trimmed

/-- Remove the marker at the start of a trimmed line. -/
def stripMarker (marker line : List Char) : List Char :=
  match dropStart? marker line with
  | some rest => trim rest
  | none => line

/-- The number of characters up to and including the next `>`, if there is one. -/
def throughAngle? (text : List Char) : Option Nat :=
  let inner := text.takeWhile fun c => c != '>'
  if inner.length < text.length then some (inner.length + 1) else none

/-- The length of a start tag of the section behind its name: `>`, or a blank and attributes. -/
def startTagRest? : List Char → Option Nat
  | [] => none
  | c :: rest =>
      if c == '>' then some 1
      else if isBlank c then (throughAngle? rest).map (· + 1)
      else none

/-- The length of an end tag of the section behind its name: blanks and `>`. -/
def endTagRest? (text : List Char) : Option Nat :=
  match text.dropWhile isBlank with
  | '>' :: _ => some ((text.takeWhile isBlank).length + 1)
  | _ => none

/-- The length of the section tag at the head of a text, if one stands there. -/
def sectionTagLength? (name : List Char) : List Char → Option Nat
  | '<' :: '/' :: rest =>
      ((dropStart? name rest).bind endTagRest?).map (· + name.length + 2)
  | '<' :: rest =>
      ((dropStart? name rest).bind startTagRest?).map (· + name.length + 1)
  | _ => none

/-- Drop the section's tags, having already dropped the first `skip` characters. -/
def dropSectionTags (name : List Char) : Nat → List Char → List Char
  | _, [] => []
  | skip + 1, _ :: rest => dropSectionTags name skip rest
  | 0, c :: rest =>
      match sectionTagLength? name (c :: rest) with
      | some length => dropSectionTags name (length - 1) rest
      | none => c :: dropSectionTags name 0 rest

/-- What is left of one line of a section. -/
def cleanLine (wanted : Section) (marker line : List Char) : List Char :=
  trim (dropSectionTags wanted.name.toList 0 (stripMarker marker (trim line)))

/-- The text of a section on one line. -/
def clean (wanted : Section) (marker text : List Char) : List Char :=
  let lines := (splitOn '\n' text).filter fun line => !(trim line).isEmpty
  let cleaned := (lines.map (cleanLine wanted marker)).filter fun line => !line.isEmpty
  [' '].intercalate cleaned

end DeclDocs.Doc
