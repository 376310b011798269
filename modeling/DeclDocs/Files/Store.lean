import DeclDocs.Files.FileTree
import DeclDocs.Text.Quoted

/-!
A directory tree with a working directory, and what the operating system answers when a path is
looked up, read or written. A double dot in a path leads to the directory around, and every
component that is passed through has to be a directory.

Two things are left out: paths that the system cannot take, for a null character or a name that is
too long, and entries without the permission to read or write them. To such a path there is no entry
unless the tree has one, and every file can be read and written.
-/
namespace DeclDocs

/-- Why the system refuses an operation. -/
inductive Refusal where
  | noEntry
  | exists
  | notDirectory
  | isDirectory
  deriving DecidableEq, Repr

namespace Refusal

def number : Refusal → Nat
  | .noEntry => 2
  | .exists => 17
  | .notDirectory => 20
  | .isDirectory => 21

def words : Refusal → String
  | .noEntry => "No such file or directory"
  | .exists => "File exists"
  | .notDirectory => "Not a directory"
  | .isDirectory => "Is a directory"

end Refusal

/-- A refused operation with the path it was asked for. -/
structure SystemError where
  refusal : Refusal
  path : Path
  deriving DecidableEq, Repr

def SystemError.message (e : SystemError) : String :=
  "[Errno " ++ toString e.refusal.number ++ "] " ++ e.refusal.words ++ ": " ++
    Text.quoted (Path.text e.path)

structure Store where
  root : FileTree
  workingDirectory : Path
  deriving Inhabited

namespace Store

/-- Follow components from a place given by its names; the place reached has no dots in it. -/
def follow (root : FileTree) : List Path → List Path → Except Refusal (List Path)
  | place, [] => .ok place
  | place, component :: rest =>
      match root.find? place with
      | some (.directory entries) =>
          if Path.isTrivial component then follow root place rest
          else if component == Path.parentMark then follow root place.dropLast rest
          else if entries.any fun e => e.1 == component then follow root (place ++ [component]) rest
          else .error .noEntry
      | _ => .error .notDirectory

/-- The names that lead to what a path denotes. -/
def locate (s : Store) (path : Path) : Except Refusal (List Path) :=
  if path.isEmpty then .error .noEntry
  else follow s.root [] (Path.components (Path.join s.workingDirectory path))

def lookup (s : Store) (path : Path) : Except Refusal FileTree := do
  let names ← s.locate path
  match s.root.find? names with
  | some tree => .ok tree
  | none => .error .noEntry

def lookup? (s : Store) (path : Path) : Option FileTree := (s.lookup path).toOption

def isFile (s : Store) (path : Path) : Bool := (s.lookup? path).any FileTree.isFile

def isDirectory (s : Store) (path : Path) : Bool := (s.lookup? path).any FileTree.isDirectory

def isPresent (s : Store) (path : Path) : Bool := (s.lookup? path).isSome

def absolute (s : Store) (path : Path) : Path := Path.absolute s.workingDirectory path

/-- The octets of a file. -/
def read (s : Store) (path : Path) : Except SystemError (List UInt8) :=
  match s.lookup path with
  | .error refusal => .error ⟨refusal, path⟩
  | .ok (.directory _) => .error ⟨.isDirectory, path⟩
  | .ok (.file octets) => .ok octets

/-- Where a new entry is to stand: the names of the directory around it, its own name, and whether
slashes follow the name. A path that ends in dots has no name. -/
structure Place where
  around : List Path
  name : Option Path
  slashed : Bool

def place (s : Store) (path : Path) : Except Refusal Place :=
  if path.isEmpty then .error .noEntry
  else
    let full := Path.components (Path.join s.workingDirectory path)
    let solid := (full.reverse.dropWhile List.isEmpty).reverse
    let last := solid.getLast?.getD []
    match follow s.root [] solid.dropLast with
    | .error refusal => .error refusal
    | .ok around =>
        if !(s.root.find? around).any FileTree.isDirectory then .error .notDirectory
        else
          let named := !Path.isTrivial last && last != Path.parentMark
          .ok ⟨around, if named then some last else none, solid.length < full.length⟩

/-- Make one directory. -/
def makeDirectory (s : Store) (path : Path) : Except SystemError Store :=
  match s.place path with
  | .error refusal => .error ⟨refusal, path⟩
  | .ok ⟨_, none, _⟩ => .error ⟨.exists, path⟩
  | .ok ⟨around, some name, _⟩ =>
      if (s.root.find? (around ++ [name])).isSome then .error ⟨.exists, path⟩
      else .ok { s with root := s.root.put (around ++ [name]) (.directory []) }

/-- Write a file, replacing what it held. The name of a file is not followed by slashes. -/
def write (s : Store) (path : Path) (octets : List UInt8) : Except SystemError Store :=
  match s.place path with
  | .error refusal => .error ⟨refusal, path⟩
  | .ok ⟨_, none, _⟩ => .error ⟨.isDirectory, path⟩
  | .ok ⟨around, some name, slashed⟩ =>
      if slashed || (s.root.find? (around ++ [name])).any FileTree.isDirectory then
        .error ⟨.isDirectory, path⟩
      else .ok { s with root := s.root.put (around ++ [name]) (.file octets) }

/-- The path around a path, and its last component; slashes at the end do not count. -/
def splitLast (path : Path) : Path × Path :=
  let name := Path.afterLastSlash path
  let around := Path.directory path
  if name.isEmpty then (Path.directory around, Path.afterLastSlash around) else (around, name)

/-- Make a directory, unless there is one already. -/
def ensureDirectory (s : Store) (path : Path) : Store × Option SystemError :=
  match s.makeDirectory path with
  | .ok made => (made, none)
  | .error e => if s.isDirectory path then (s, none) else (s, some e)

/-- Make the directories around a path that are missing, outermost first, and then that of the
path. What was made stays when a later one is refused. Something else in the place of a directory
around is found out when the next one is made. -/
def ensureAll : Nat → Store → Path → Store × Option SystemError
  | 0, s, _ => (s, none)
  | fuel + 1, s, path =>
      let (around, name) := splitLast path
      if around.isEmpty || name.isEmpty || s.isPresent around then s.ensureDirectory path
      else
        let (made, refused) := ensureAll fuel s around
        match refused.filter fun e => e.refusal != .exists with
        | some e => (made, some e)
        | none => if name == ['.'] then (made, none) else made.ensureDirectory path

/-- Make a directory and those around it; a directory that is there already is left alone. -/
def makeDirectories (s : Store) (path : Path) : Except SystemError Store :=
  match ensureAll (path.length + 1) s path with
  | (made, none) => .ok made
  | (_, some e) => .error e

end Store
end DeclDocs
