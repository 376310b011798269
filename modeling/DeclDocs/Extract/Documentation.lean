import DeclDocs.Doc.Block
import DeclDocs.Doc.Search
import DeclDocs.Grammar
import DeclDocs.Log.Logged

/-!
The documentation attached to a node. The leading comments of a node are the comments in the run
of comments and layout directly before it. Their blocks are searched in the order of the source,
and the first block with the section decides.
-/
namespace DeclDocs.Extract

open Syntax Doc Log

/-- A sibling that does not end the leading comments: one of a layout kind, or what error recovery
has left of a line end. -/
def isLayout (t : Tree) (layout : List String) (n : t.Node) : Bool :=
  layout.contains (t.kind n) ||
    (t.kind n == "ERROR" && Text.allBlank ((t.textChars? n).getD []))

/-- The comments directly before a node, in the order of the source. -/
def leadingComments (t : Tree) (layout : List String) (n : t.Node) : List t.Node :=
  let run := (t.precedingSiblings n).takeWhile fun s => t.isComment s || isLayout t layout s
  (run.filter fun s => t.isComment s).reverse

def commentAt (t : Tree) (n : t.Node) : Comment :=
  ⟨(t.textChars? n).getD [], t.firstRow n, t.lastRow n⟩

/-- The section in the first block that has it; a section that is opened and not closed is
reported. -/
def sectionInBlocks (wanted : Section) : List (List (List Char)) → Logged (Option (List Char))
  | [] => pure none
  | lines :: rest => do
      let text := blockText lines
      match search text wanted with
      | .found start stop => pure (some (slice text start stop))
      | .absent unclosed =>
          Logged.reportWhen unclosed (.sectionUnclosed wanted)
          sectionInBlocks wanted rest

/-- The text of a section among the leading comments of a node, with its tags and markers. -/
def attachedSection (t : Tree) (layout : List String) (marker : Marker) (wanted : Section)
    (n : t.Node) : Logged (Option (List Char)) :=
  sectionInBlocks wanted (blocks marker ((leadingComments t layout n).map (commentAt t)))

/-- The cleaned text of a section of a declaration, or the placeholder if it has none. -/
def documentation (g : Grammar) (t : Tree) (wanted : Section) (n : t.Node) : Logged String := do
  match ← attachedSection t g.layout g.marker wanted (g.anchor t n) with
  | none => pure wanted.placeholder
  | some text => pure (String.ofList (clean wanted g.marker.chars text))

end DeclDocs.Extract
