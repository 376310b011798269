import DeclDocs.Text.Split

/-!
Paths of files as texts, with components between slashes. Normalising drops empty components and
dots and lets a double dot cancel the component before it; nothing is looked up. A path that starts
with exactly two slashes keeps both.
-/
namespace DeclDocs

abbrev Path : Type := List Char

namespace Path

open Text

def ofString (text : String) : Path := text.toList

def text (path : Path) : String := String.ofList path

def isAbsolute (path : Path) : Bool := path.head? == some '/'

def components (path : Path) : List Path := splitOn '/' path

/-- The slashes at the start that count: none, one, or exactly two. -/
def rootSlashes (path : Path) : Path :=
  match path with
  | '/' :: '/' :: '/' :: _ => ['/']
  | '/' :: '/' :: _ => ['/', '/']
  | '/' :: _ => ['/']
  | _ => []

def parentMark : Path := ['.', '.']

def isTrivial (component : Path) : Bool := component.isEmpty || component == ['.']

/-- One step of normalising; the components kept so far are given newest first. A double dot that
has nothing to cancel is kept, unless the path starts at the root. -/
def reduceStep (rooted : Bool) (kept : List Path) (component : Path) : List Path :=
  if isTrivial component then kept
  else if component != parentMark then component :: kept
  else
    match kept with
    | [] => if rooted then [] else [component]
    | last :: rest => if last == parentMark then component :: last :: rest else rest

def reduce (rooted : Bool) (parts : List Path) : List Path :=
  (parts.foldl (reduceStep rooted) []).reverse

def joinParts (parts : List Path) : Path := ['/'].intercalate parts

def orDot (path : Path) : Path := if path.isEmpty then ['.'] else path

def normalize (path : Path) : Path :=
  orDot (rootSlashes path ++ joinParts (reduce (isAbsolute path) (components path)))

/-- A path seen from a directory; an absolute path stays what it is. -/
def join (directory path : Path) : Path :=
  if isAbsolute path then path
  else if directory.isEmpty || directory.getLast? == some '/' then directory ++ path
  else directory ++ '/' :: path

def absolute (workingDirectory path : Path) : Path := normalize (join workingDirectory path)

/-- Everything up to the last slash, itself included. -/
def throughLastSlash (path : Path) : Path := (path.reverse.dropWhile fun c => c != '/').reverse

def afterLastSlash (path : Path) : Path := (path.reverse.takeWhile fun c => c != '/').reverse

/-- The directory part: what stands before the last slash. -/
def directory (path : Path) : Path :=
  let head := throughLastSlash path
  if head.all fun c => c == '/' then head
  else (head.reverse.dropWhile fun c => c == '/').reverse

/-- The extension with its dot. Dots at the start of a name do not begin one. -/
def extension (path : Path) : Path :=
  let body := (afterLastSlash path).dropWhile fun c => c == '.'
  if body.contains '.' then '.' :: (body.reverse.takeWhile fun c => c != '.').reverse else []

/-- A path without empty components and dots; double dots stay. -/
def tidy (path : Path) : Path :=
  orDot (rootSlashes path ++ joinParts ((components path).filter fun c => !isTrivial c))

/-- The absolute path that a path denotes where there are no links, with one slash at its start. -/
def resolve (workingDirectory path : Path) : Path :=
  '/' :: joinParts (reduce true (components (join workingDirectory path)))

/-- The ending of the last component with its dot. A dot at the start or at the end of the component
does not begin one. -/
def suffix (path : Path) : Path :=
  let name := afterLastSlash (tidy path)
  let ending := (name.reverse.takeWhile fun c => c != '.').reverse
  if ending.isEmpty || name.length ≤ ending.length + 1 then [] else '.' :: ending

/-- Drop the common start of two lists. -/
def dropCommon : List Path → List Path → List Path × List Path
  | a :: as, b :: bs => if a = b then dropCommon as bs else (a :: as, b :: bs)
  | as, bs => (as, bs)

def solidComponents (path : Path) : List Path := (components path).filter fun c => !c.isEmpty

/-- The way from one absolute path to another. -/
def relative (target start : Path) : Path :=
  let (back, ahead) := dropCommon (solidComponents start) (solidComponents target)
  orDot (joinParts (back.map (fun _ => parentMark) ++ ahead))

/-- The order of paths by code points. -/
def le (a b : Path) : Bool := !decide (b < a)

end Path
end DeclDocs
