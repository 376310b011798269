import DeclDocs.Declaration.Encoding
import DeclDocs.Run.Batch
import DeclDocs.Run.Output
import DeclDocs.Settings.Load

/-!
Extracting all sources of a run into one file of lines. The file is started before anything is
extracted, and holds what was extracted even when the run ends early. A source that fails is
reported with its reason; the run then goes on with the next source or ends, as asked.
-/
namespace DeclDocs

open Log

/-- What became of a source. -/
structure SourceReport where
  path : String
  grammar : Option String
  units : Nat
  error : Option String := none
  deriving DecidableEq, Repr

namespace SourceReport

def hasFailed (r : SourceReport) : Bool := r.error.isSome

def toJson (r : SourceReport) : Json :=
  .obj
    ([("path", .str r.path), ("grammar", Json.ofStringOption r.grammar),
      ("units", .int r.units)] ++
    (match r.error with
      | some reason => [("status", .str Status.failed.word), ("error", .str reason)]
      | none => [("status", .str Status.success.word)]))

end SourceReport

/-- What to extract and where to. -/
structure Plan where
  sources : List SourceSpec
  outputFile : String
  goOn : Bool
  excluded : Option (List String) := none

/-- What extracting some sources has given; a failure ended it early. -/
structure Harvest where
  reports : List SourceReport
  units : List UnitResult
  stats : Stats
  failure : Option Failure

/-- Extract the sources in order, counting on from the given numbers. -/
def runSources (w : Workspace) (goOn : Bool) (excluded : Option (List String)) :
    List SourceSpec → Stats → Journal Harvest
  | [], stats => return ⟨[], [], stats, none⟩
  | spec :: rest, stats => do
      let options : BatchOptions := { grammar := spec.grammar, goOn, excluded }
      let batch ← runSource w options (Path.ofString spec.path) stats
      let units := batch.units.map (·.1)
      let report : SourceReport :=
        { path := spec.path, grammar := spec.grammar, units := units.length }
      match batch.failure with
      | none =>
          let later ← runSources w goOn excluded rest batch.stats
          return { later with reports := report :: later.reports, units := units ++ later.units }
      | some e =>
          let failed := { report with error := some e.message }
          if e.isForeseen then
            Journal.report (.sourceFailed spec.path e.message)
          if e.isForeseen && goOn then
            let later ← runSources w goOn excluded rest batch.stats
            return { later with reports := failed :: later.reports, units := units ++ later.units }
          else return ⟨[failed], units, batch.stats, some e⟩

/-- What a finished run tells about itself. -/
structure Summary where
  sources : List SourceReport
  stats : Stats
  errors : List DeclarationError
  outputFile : String
  unitsWritten : Nat
  status : Status
  deriving DecidableEq, Repr

namespace Summary

def ofHarvest (outputFile : String) (h : Harvest) : Summary :=
  let failedSources := (h.reports.filter SourceReport.hasFailed).length
  let attempted := h.stats.processed + h.stats.failed + failedSources
  { sources := h.reports
    stats := h.stats
    errors := h.units.flatMap UnitResult.errors
    outputFile
    unitsWritten := h.units.length
    status := .ofCounts attempted h.stats.processed }

def fields (s : Summary) : List (String × Json) :=
  [("sources", .arr (s.sources.map SourceReport.toJson)), ("stats", s.stats.toJson),
   ("declaration_errors", .arr (s.errors.map DeclarationError.toJson)),
   ("output_file", .str s.outputFile), ("units_written", .int s.unitsWritten),
   ("status", .str s.status.word)]

end Summary

/-- Write what was harvested to a file that has been started. -/
def fillOutput (started : Store) (file : Path) (h : Harvest) : Except Failure Store :=
  match Output.fill started file (h.units.map UnitResult.toJson) with
  | .ok store => .ok store
  | .error e => .error (.refused e)

/-- Extract into the started file. The store is that with the lines in it. -/
def harvestInto (w : Workspace) (plan : Plan) (file : Path) (started : Store) :
    Journal (Store × Except Failure Harvest) := do
  let h ← runSources { w with store := started } plan.goOn plan.excluded plan.sources {}
  match fillOutput started file h, h.failure with
  | .error e, _ => return (started, .error e)
  | .ok written, some e => return (written, .error e)
  | .ok written, none => return (written, .ok h)

/-- Carry out a plan. The result is the store afterwards, with a summary or what ended the run. -/
def execute (w : Workspace) (plan : Plan) : Journal (Store × Except Failure Summary) := do
  let file := Path.ofString plan.outputFile
  Journal.report (.outputChosen (Path.text (w.store.absolute file)))
  let (store, harvest) ← Journal.inPhase "extract" (match Output.start w.store file with
    | .error e => return (w.store, .error (.refused e))
    | .ok started => harvestInto w plan file started)
  match harvest with
  | .error e => return (store, .error e)
  | .ok h =>
      let summary := Summary.ofHarvest plan.outputFile h
      Journal.report (.unitsWritten summary.unitsWritten plan.outputFile)
      Journal.report (.runCounted summary.stats.text)
      return (store, .ok summary)

end DeclDocs
