import DeclDocs.Extract.Source
import DeclDocs.Log.Context
import DeclDocs.Run.Stats

/-!
Extracting the files of a source, one after the other. A failing file is counted and reported; the
batch then goes on or ends there, as asked. What had been extracted before stays.
-/
namespace DeclDocs

open Log Extract

/-- What a batch works with. -/
structure Workspace where
  store : Store
  parser : Parser

/-- A computation in a log context that may fail. -/
abbrev Working (α : Type) : Type := ExceptT Failure Journal α

namespace Working

def ofReading {α : Type} (x : Reading α) : Working α :=
  ExceptT.mk (Journal.ofLogged x.run)

def inUnit {α : Type} (unit : String) (x : Working α) : Working α :=
  ExceptT.mk (Journal.inUnit unit x.run)

end Working

/-- A grammar name that is not empty. -/
def chosenGrammar (grammar : Option String) : Option String :=
  grammar.filter fun name => !name.isEmpty

/-- The chosen grammar, or the one for files like this one. -/
def grammarFor (file : Path) (grammar : Option String) : Except Failure Grammar :=
  match chosenGrammar grammar with
  | some name => Grammar.named name
  | none => Grammar.forPath file

/-- The directory that unit names are relative to. -/
def rootFor (store : Store) (file : Path) : Option Path → Path
  | none => Path.directory file
  | some root => store.absolute root

/-- Extract one file; records emitted on the way carry its unit name. -/
def extractUnitFile (w : Workspace) (path : Path) (grammar : Option String) (root : Option Path) :
    Working ExtractedUnit := do
  let file := w.store.absolute path
  if !w.store.isFile file then throw (.fileNotFound file)
  let g ← ofExcept (grammarFor file grammar)
  let unit := Path.text (Path.relative file (rootFor w.store file root))
  Working.inUnit unit do
    let parsed ← Working.ofReading (parseFile w.store w.parser file (some g.name))
    let faults := parsed.tree.faultCount
    if parsed.tree.hasError then
      Journal.report (.unitFaulty unit faults)
    let result ← (extractUnit g parsed.tree unit : Logged UnitResult)
    return { result, faults }

/-- Extract one file on its own; a foreseen failure is reported. -/
def extractFile (w : Workspace) (path : Path) (grammar : Option String) (root : Option Path) :
    Working UnitResult := ExceptT.mk do
  match ← (extractUnitFile w path grammar root).run with
  | .ok unit => return .ok unit.result
  | .error e => do
      if e.isForeseen then
        Journal.report (.extractionFailed (Path.text path) e.message)
      return .error e

/-- The units of a batch in order, each with the counts once it was done; the counts at the end; and
the failure that ended the batch, if one did. -/
structure Batch where
  units : List (UnitResult × Stats)
  stats : Stats
  failure : Option Failure

/-- How to treat the files of a source. -/
structure BatchOptions where
  grammar : Option String := none
  root : Option Path := none
  goOn : Bool := true
  excluded : Option (List String) := none

/-- Extract a list of files, counting on from the given numbers. -/
def runFiles (w : Workspace) (options : BatchOptions) (root : Path) :
    List Path → Stats → Journal Batch
  | [], stats => return ⟨[], stats, none⟩
  | file :: rest, stats => do
      match ← (extractUnitFile w file options.grammar (some root)).run with
      | .ok unit =>
          let stats := stats.record unit
          let later ← runFiles w options root rest stats
          return { later with units := (unit.result, stats) :: later.units }
      | .error e =>
          Journal.report (if e.isForeseen then .fileRejected (Path.text file) e.message
            else .fileCrashed (Path.text file) e.message)
          let stats := stats.recordFailure
          if options.goOn then runFiles w options root rest stats
          else return ⟨[], stats, some e⟩

/-- Extract a source: a file, or the source files below a directory. -/
def runSource (w : Workspace) (options : BatchOptions) (source : Path) (stats : Stats) :
    Journal Batch := do
  let place := w.store.absolute source
  let givenRoot := options.root.filter fun root => !root.isEmpty
  if w.store.isFile place then
    runFiles w options ((givenRoot.map w.store.absolute).getD (Path.directory place)) [place] stats
  else if w.store.isDirectory place then
    match (chosenGrammar options.grammar).mapM Grammar.named with
    | .error e => return ⟨[], stats, some e⟩
    | .ok g =>
        let files ← (Discovery.discover w.store place (g.map Grammar.extensions) options.excluded :
          Logged (List Path))
        if files.isEmpty then
          Journal.report (.nothingFound (Path.text place))
        runFiles w options ((givenRoot.map w.store.absolute).getD place) files stats
  else return ⟨[], stats, some (.sourceNotFound place)⟩

/-- Extract a directory on its own. -/
def runDirectory (w : Workspace) (options : BatchOptions) (directory : Path) :
    Working (List UnitResult × Stats) := do
  let place := w.store.absolute directory
  if !w.store.isDirectory place then throw (.directoryNotFound place)
  let batch ← runSource w options place {}
  match batch.failure with
  | some e => throw e
  | none =>
      Journal.report (.directoryDone batch.stats.text)
      return (batch.units.map (·.1), batch.stats)

end DeclDocs
