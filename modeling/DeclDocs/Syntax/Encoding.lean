import DeclDocs.Json.Basic
import DeclDocs.Syntax.Tree

/-!
Syntax trees as JSON: a list of rows in preorder, each a list of its parent, its kind, where it
starts and stops, its marks and its field. The root has the parent -1. The marks are letters: `n`
for a named node, `m` for a missing one, `x` for one without text, and `e` on the root of a tree
with errors.
-/
namespace DeclDocs.Syntax

namespace Row

def parentOf (index : Int) : Option Nat := if index < 0 then none else some index.toNat

def ofJson? : Json → Option Row
  | .arr [.int parent, .str kind, .int start, .int stop, .str marks, .str field] =>
      some
        { parent := parentOf parent
          kind
          start := start.toNat
          stop := stop.toNat
          named := marks.contains 'n'
          missing := marks.contains 'm'
          textless := marks.contains 'x'
          field }
  | _ => none

end Row

namespace Tree

/-- Whether the first row is marked as the root of a tree with errors. -/
def marksError : List Json → Bool
  | .arr [_, _, _, _, .str marks, _] :: _ => marks.contains 'e'
  | _ => false

/-- The tree of a source that rows describe. -/
def ofJson? (source : List UInt8) : Json → Option Tree
  | .arr rows => do
      let read ← rows.mapM Row.ofJson?
      ofRows? source read.toArray (marksError rows)
  | _ => none

end Tree
end DeclDocs.Syntax
