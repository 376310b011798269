import DeclDocs.Doc.Markup
import DeclDocs.Doc.Section

/-!
The first top-level element of a given name in a documentation block. The block is read tag by tag
with the names of the open elements on a stack. An end tag closes the innermost open element of its
name together with everything opened inside; an end tag that matches nothing is ignored. A tag that
closes itself carries no text and never counts.
-/
namespace DeclDocs.Doc

/-- The outcome of a search: the positions of the section, or its absence, with a note whether a
section was opened and never closed. -/
inductive Search where
  | found (start stop : Nat)
  | absent (unclosed : Bool)
  deriving DecidableEq, Repr

/-- What stays open when the innermost element of a name is closed. -/
def closeElement (name : List Char) (openElements : List (List Char)) : List (List Char) :=
  (openElements.dropWhile fun n => n != name).tail

/-- Search on from a stack of open elements, innermost first, and the start of the section if it
has been opened. -/
def searchFrom (wanted : List Char) :
    List (List Char) → Option Nat → List Tag → Search
  | _, sectionStart, [] => .absent sectionStart.isSome
  | openElements, sectionStart, tag :: rest =>
      if tag.selfClosing then searchFrom wanted openElements sectionStart rest
      else if !tag.closing then
        let begins := openElements.isEmpty && tag.name == wanted
        searchFrom wanted (tag.name :: openElements)
          (if begins then some tag.start else sectionStart) rest
      else if openElements.contains tag.name then
        let remaining := closeElement tag.name openElements
        match remaining, sectionStart with
        | [], some start => .found start tag.stop
        | _, _ => searchFrom wanted remaining sectionStart rest
      else searchFrom wanted openElements sectionStart rest

def search (text : List Char) (wanted : Section) : Search :=
  searchFrom wanted.name.toList [] none (tags text)

/-- The characters from one position up to another. -/
def slice {α : Type} (text : List α) (start stop : Nat) : List α := (text.take stop).drop start

theorem slice_append {α : Type} (left mid right : List α) :
    slice (left ++ mid ++ right) left.length (left.length + mid.length) = mid := by
  rw [slice, ← List.length_append, List.take_left, List.drop_left]

/-- The text of the first top-level section of that name, its tags included. -/
def findSection? (text : List Char) (wanted : Section) : Option (List Char) :=
  match search text wanted with
  | .found start stop => some (slice text start stop)
  | .absent _ => none

end DeclDocs.Doc
