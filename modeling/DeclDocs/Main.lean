import DeclDocs.Command.Run
import DeclDocs.Command.Stamp
import DeclDocs.Json.Reader
import DeclDocs.Syntax.Encoding

/-!
The command line. It works on the files below the working directory: they are read into a store,
the command is run on it, and the files that are new or changed are written back. Source files are
parsed by a program of its own, which leaves the tree of a file `name` under a grammar `g` as rows
in the file `name.g.tree.json`; a file without a tree counts as one that the parser cannot read.
-/
namespace DeclDocs.Main

open Log

/-- Read an entry of a directory with everything below it. What is neither a file nor a directory is
left out. -/
partial def readEntry (entry : IO.FS.DirEntry) : IO (Option (Path × FileTree)) := do
  let name := Path.ofString entry.fileName
  match (← entry.path.metadata).type with
  | .dir =>
      let entries ← (← entry.path.readDir).toList.filterMapM readEntry
      return some (name, .directory entries)
  | .file => return some (name, .file (← IO.FS.readBinFile entry.path).toList)
  | _ => return none

/-- A file with the tree it has under a grammar. -/
structure Parsed where
  grammar : Grammar
  octets : List UInt8
  tree : Syntax.Tree

def treeSuffix (g : Grammar) : List Char := ("." ++ g.name ++ ".tree.json").toList

/-- The trees that stand beside the files of a store. -/
def parsedFiles (files : List (List Path × List UInt8)) : List Parsed :=
  files.flatMap fun (names, octets) => Grammar.all.filterMap fun g => do
    let rows ← files.lookup (names.dropLast ++ [names.getLast?.getD [] ++ treeSuffix g])
    let json ← Json.parse? (Text.Utf8.decode rows)
    let tree ← Syntax.Tree.ofJson? octets json
    return ⟨g, octets, tree⟩

def treeMissing : ParserFault := ⟨.invalid, "No syntax tree for this source"⟩

def parserOf (parsed : List Parsed) : Extract.Parser where
  parse g octets :=
    match parsed.find? fun p => p.grammar == g && p.octets == octets with
    | some p => .ok p.tree
    | none => .error treeMissing

/-- The files that a run has made or changed. -/
def changes (before after : Store) : List (Path × List UInt8) :=
  let old := before.root.files []
  ((after.root.files []).filter fun (names, octets) => old.lookup names != some octets).map
    fun (names, octets) => ('/' :: Path.joinParts names, octets)

/-- The time as seconds and microseconds, taken from a file made for it. -/
def now : IO (Nat × Nat) := do
  let (_, path) ← IO.FS.createTempFile
  let modified := (← path.metadata).modified
  IO.FS.removeFile path
  return (modified.sec.toNat, modified.nsec.toNat / 1000)

def showLine (time : String) (line : Line) : String :=
  if line.tagged then time ++ " | " ++ line.text else line.text

def usage : String :=
  "usage: decldocs " ++ String.intercalate " "
    (Command.Flag.all.map fun flag =>
      "[" ++ flag.title ++ (if flag.takesValue then " VALUE" else "") ++ "]")

/-- The message and exit code of a command that was given up. -/
def abortText : Command.Abort → String × UInt32
  | .halt .help => (usage, 0)
  | .halt (.usage e) => (usage ++ "\ndecldocs: error: " ++ e.message, 2)
  | .settings e => (e.message, 1)

end DeclDocs.Main

open DeclDocs DeclDocs.Main in
def main (words : List String) : IO UInt32 := do
  let directory ← IO.currentDir
  let here := Path.ofString directory.toString
  let names := (Path.components here).filter fun c => !c.isEmpty
  let entries ← (← directory.readDir).toList.filterMapM readEntry
  let root := FileTree.put (.directory []) names (.directory entries)
  let store : Store := { root, workingDirectory := here }
  let (seconds, micros) ← now
  let octets := (← IO.getRandomBytes 16).toList
  let surroundings : Command.Surroundings :=
    { workspace := ⟨store, parserOf (parsedFiles (root.files []))⟩
      strictSwitch := ← IO.getEnv "DOCEXTRACT_STRICT_CONFIG"
      run := Command.runName octets
      time := Command.reportTime seconds micros }
  match Command.run surroundings words with
  | .error abort =>
      let (text, code) := abortText abort
      IO.eprintln text
      return code
  | .ok outcome =>
      for (path, octets) in changes store outcome.store do
        IO.FS.createDirAll (Path.text (Path.directory path))
        IO.FS.writeBinFile (Path.text path) ⟨octets.toArray⟩
      for line in outcome.lines do
        IO.eprintln (showLine (Command.lineTime seconds micros) line)
      match outcome.exit with
      | .ok code => return UInt32.ofNat code
      | .error e =>
          IO.eprintln e.message
          return 1
