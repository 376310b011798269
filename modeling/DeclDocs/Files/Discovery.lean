import DeclDocs.Files.Store
import DeclDocs.Grammar
import DeclDocs.Log.Logged

/-!
Finding source files below a directory. Directories whose names begin with a dot or are excluded
are not entered; files are accepted by their extension in lower case. The paths found are absolute
and in increasing order.
-/
namespace DeclDocs

open Log

namespace Discovery

/-- Directories of build output and tools. -/
def defaultExcluded : List String :=
  ["bin", "obj", "packages", "node_modules", ".vs", "TestResults", "publish"]

/-- The extensions to accept, all that are supported if none are given. -/
def acceptedExtensions (extensions : Option (List String)) : List String :=
  let given := extensions.getD []
  (if given.isEmpty then Grammar.supportedExtensions else given).map Text.lowerString

def excludedNames (excluded : Option (List String)) : List String := excluded.getD defaultExcluded

def enters (excluded : List String) (name : Path) : Bool :=
  name.head? != some '.' && !excluded.contains (Path.text name)

/-- The extension of a name in lower case. -/
def lowerExtension (path : Path) : String := String.ofList (Text.lower (Path.extension path))

def accepts (extensions : List String) (name : Path) : Bool :=
  extensions.contains (lowerExtension name)

def sourceFiles (store : Store) (directory : Path) (extensions excluded : Option (List String)) :
    List Path :=
  let base := store.absolute directory
  match store.lookup? base with
  | none => []
  | some tree =>
      (tree.search (enters (excludedNames excluded)) (accepts (acceptedExtensions extensions))
        base).mergeSort Path.le

def discover (store : Store) (directory : Path) (extensions excluded : Option (List String)) :
    Logged (List Path) := do
  Logged.report (.discoveryStarted (Path.text (store.absolute directory)))
  let found := sourceFiles store directory extensions excluded
  Logged.report (.discoveryEnded found.length)
  return found

end Discovery
end DeclDocs
