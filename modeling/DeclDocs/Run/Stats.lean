import DeclDocs.Declaration
import DeclDocs.Json.Basic

/-!
What a run has done so far, in numbers.
-/
namespace DeclDocs

/-- A unit that has been extracted, with the number of faults in its syntax tree. -/
structure ExtractedUnit where
  result : UnitResult
  faults : Nat
  deriving DecidableEq, Repr

structure Stats where
  processed : Nat := 0
  failed : Nat := 0
  declarations : Nat := 0
  declarationErrors : Nat := 0
  parseErrors : Nat := 0
  deriving DecidableEq, Repr

namespace Stats

/-- Count a unit that has been extracted. -/
def record (s : Stats) (unit : ExtractedUnit) : Stats :=
  { s with
    processed := s.processed + 1
    declarations := s.declarations + unit.result.declarationCount
    declarationErrors := s.declarationErrors + unit.result.errors.length
    parseErrors := s.parseErrors + unit.faults }

/-- Count a file that could not be extracted. -/
def recordFailure (s : Stats) : Stats := { s with failed := s.failed + 1 }

def text (s : Stats) : String :=
  "ExtractionStats(processed=" ++ toString s.processed ++ ", failed=" ++ toString s.failed ++
    ", declarations=" ++ toString s.declarations ++ ", declaration_errors=" ++
    toString s.declarationErrors ++ ", parse_errors=" ++ toString s.parseErrors ++ ")"

def toJson (s : Stats) : Json :=
  .obj
    [("files_processed", .int s.processed), ("files_failed", .int s.failed),
     ("declarations_extracted", .int s.declarations),
     ("declaration_errors", .int s.declarationErrors), ("parse_errors", .int s.parseErrors)]

end Stats

/-- How a run went, by the number of things attempted and of those that succeeded. A run with
nothing to do is a success. -/
inductive Status where
  | success
  | partialSuccess
  | failed
  deriving DecidableEq, Repr

namespace Status

def word : Status → String
  | .success => "success"
  | .partialSuccess => "partial_success"
  | .failed => "failed"

def ofCounts (total succeeded : Int) : Status :=
  if total = 0 then .success
  else if succeeded ≤ 0 then .failed
  else if succeeded < total then .partialSuccess
  else .success

end Status
end DeclDocs
