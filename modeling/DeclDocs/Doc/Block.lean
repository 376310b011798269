import DeclDocs.Doc.Comment

/-!
Documentation blocks. Documentation comments on consecutive rows form one block; an ordinary comment
or a gap of rows ends it.
-/
namespace DeclDocs.Doc

open Text

/-- A comment in the source with the rows of its first and last character. -/
structure Comment where
  text : List Char
  firstRow : Nat
  lastRow : Nat
  deriving DecidableEq, Repr

/-- The lines of a block that is complete, if there are any. -/
def closeBlock (lines : List (List Char)) : List (List (List Char)) :=
  if lines.isEmpty then [] else [lines.reverse]

/-- Group on from the lines of the block that is still open, newest first, and the last row of the
newest one. -/
def groupFrom (marker : Marker) :
    List (List Char) → Nat → List Comment → List (List (List Char))
  | lines, _, [] => closeBlock lines
  | lines, lastRow, comment :: rest =>
      if !isDocComment marker comment.text then
        closeBlock lines ++ groupFrom marker [] 0 rest
      else if !lines.isEmpty && lastRow + 1 < comment.firstRow then
        closeBlock lines ++ groupFrom marker [trim comment.text] comment.lastRow rest
      else groupFrom marker (trim comment.text :: lines) comment.lastRow rest

/-- The blocks of a list of comments, each as its trimmed lines with their markers. -/
def blocks (marker : Marker) (comments : List Comment) : List (List (List Char)) :=
  groupFrom marker [] 0 comments

/-- A block as one text. -/
def blockText (lines : List (List Char)) : List Char := ['\n'].intercalate lines

end DeclDocs.Doc
