import DeclDocs.Files.Path

/-!
Directory trees without links. A tree is a file with its octets or a directory with named entries.
-/
namespace DeclDocs

inductive FileTree where
  | file (octets : List UInt8)
  | directory (entries : List (Path × FileTree))
  deriving Inhabited

namespace FileTree

def isDirectory : FileTree → Bool
  | .file _ => false
  | .directory _ => true

def isFile : FileTree → Bool
  | .file _ => true
  | .directory _ => false

def child? (name : Path) : FileTree → Option FileTree
  | .file _ => none
  | .directory entries => (entries.find? fun e => e.1 == name).map (·.2)

/-- What stands at the end of a list of names. -/
def find? : List Path → FileTree → Option FileTree
  | [], tree => some tree
  | name :: rest, tree => (tree.child? name).bind (find? rest)

/-- Replace an entry, or add it behind the others. -/
def putEntry (name : Path) (tree : FileTree) : List (Path × FileTree) → List (Path × FileTree)
  | [] => [(name, tree)]
  | (n, e) :: rest => if n = name then (n, tree) :: rest else (n, e) :: putEntry name tree rest

/-- Put a tree at the end of a list of names, making directories on the way. -/
def put : FileTree → List Path → FileTree → FileTree
  | _, [], new => new
  | .file _, name :: rest, new => .directory [(name, put (.directory []) rest new)]
  | .directory entries, name :: rest, new =>
      let inner := ((entries.find? fun e => e.1 == name).map (·.2)).getD (.directory [])
      .directory (putEntry name (put inner rest new) entries)

mutual

/-- The files of a tree with the names that lead to them. -/
def files (names : List Path) : FileTree → List (List Path × List UInt8)
  | .file octets => [(names, octets)]
  | .directory entries => filesOfEntries names entries

def filesOfEntries (names : List Path) : List (Path × FileTree) → List (List Path × List UInt8)
  | [] => []
  | (name, tree) :: rest => files (names ++ [name]) tree ++ filesOfEntries names rest

end

mutual

/-- The paths of the accepted files below a directory, entering only some of its directories. -/
def search (enter accept : Path → Bool) (base : Path) : FileTree → List Path
  | .file _ => []
  | .directory entries => searchEntries enter accept base entries

def searchEntries (enter accept : Path → Bool) (base : Path) : List (Path × FileTree) → List Path
  | [] => []
  | (name, .file _) :: rest =>
      (if accept name then [Path.join base name] else []) ++ searchEntries enter accept base rest
  | (name, .directory entries) :: rest =>
      (if enter name then searchEntries enter accept (Path.join base name) entries else []) ++
        searchEntries enter accept base rest

end

end FileTree
end DeclDocs
