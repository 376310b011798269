import DeclDocs.Doc.Section
import DeclDocs.Log.Level

/-!
What the library reports while it works. Each event has a severity, the channel it is reported on
and a message; the wording of every message is here and nowhere else.
-/
namespace DeclDocs.Log

inductive Event where
  | sectionUnclosed (wanted : Doc.Section)
  | parserCreated (grammar : String)
  | treeFaulty
  | sourceParsed (size : Nat) (grammar : String)
  | fileMissing (path : String)
  | fileUnreadable (path reason : String)
  | fileFaulty (path : String)
  | fileParsed (path : String)
  | nodeSkipped (kind : String) (line : Nat)
  | namespaceLeft (line depth count : Nat)
  | typeSkipped (kind : String) (line : Nat) (reason : String)
  | typeExtracted (kind name unit : String)
  | unitEntered (unit : String)
  | unitIncomplete (count : Nat) (unit : String)
  | unitLeft (count : Nat) (unit : String)
  | unitFaulty (unit : String) (count : Nat)
  | extractionFailed (path reason : String)
  | discoveryStarted (directory : String)
  | discoveryEnded (count : Nat)
  | nothingFound (source : String)
  | fileRejected (path reason : String)
  | fileCrashed (path reason : String)
  | directoryDone (stats : String)
  | settingProblem (problem fallback : String)
  | outputChosen (path : String)
  | sourceFailed (path reason : String)
  | unitsWritten (count : Nat) (path : String)
  | runCounted (stats : String)
  | reportWritten (path : String)
  | settingsInvalid (reason : String)
  | noSources
  | runFailed (reason : String)
  deriving DecidableEq, Repr

namespace Event

def level : Event → Level
  | sectionUnclosed _ | parserCreated _ | sourceParsed .. | nodeSkipped .. | namespaceLeft ..
  | typeExtracted .. => .debug
  | fileParsed _ | unitEntered _ | unitLeft .. | discoveryStarted _ | discoveryEnded _
  | directoryDone _ | outputChosen _ | unitsWritten .. | runCounted _ | reportWritten _ => .info
  | treeFaulty | fileFaulty _ | typeSkipped .. | unitIncomplete .. | unitFaulty .. | nothingFound _
  | settingProblem .. => .warning
  | fileMissing _ | fileUnreadable .. | extractionFailed .. | fileRejected .. | fileCrashed ..
  | sourceFailed .. | settingsInvalid _ | noSources | runFailed _ => .error

def channel : Event → String
  | sectionUnclosed _ => "docextract.trivia"
  | parserCreated _ | treeFaulty | sourceParsed .. | fileMissing _ | fileUnreadable ..
  | fileFaulty _ | fileParsed _ => "docextract.parser"
  | nodeSkipped .. | namespaceLeft .. | typeSkipped .. | typeExtracted .. | unitEntered _
  | unitIncomplete .. | unitLeft .. => "docextract.traversal"
  | unitFaulty .. | extractionFailed .. | discoveryStarted _ | discoveryEnded _ | nothingFound _
  | fileRejected .. | fileCrashed .. | directoryDone _ => "docextract.extractor"
  | settingProblem .. => "core.extraction_config"
  | outputChosen _ | sourceFailed .. | unitsWritten .. | runCounted _ | reportWritten _
  | settingsInvalid _ | noSources | runFailed _ => "run_extraction"

def message : Event → String
  | sectionUnclosed wanted => "Unclosed <" ++ wanted.name ++ "> section in documentation block"
  | parserCreated grammar => s!"Created tree-sitter {grammar} parser"
  | treeFaulty => "Parsed tree contains syntax errors"
  | sourceParsed size grammar => s!"Parsed {size} bytes of {grammar} code"
  | fileMissing path => s!"File not found: {path}"
  | fileUnreadable path reason => s!"Error reading file {path}: {reason}"
  | fileFaulty path => s!"File {path} contains syntax errors"
  | fileParsed path => s!"Successfully parsed file: {path}"
  | nodeSkipped kind line => s!"Skipping {kind} at line {line}"
  | namespaceLeft line depth count =>
      s!"Namespace at line {line} (depth {depth}) yielded {count} declarations"
  | typeSkipped kind line reason => s!"Skipping {kind} at line {line}: {reason}"
  | typeExtracted kind name unit => s!"Extracted {kind} {name} from {unit}"
  | unitEntered unit => s!"Extracting declarations from {unit}"
  | unitIncomplete count unit => s!"{count} declarations in {unit} could not be extracted"
  | unitLeft count unit => s!"Extracted {count} declarations from {unit}"
  | unitFaulty unit count => s!"File {unit} contains syntax errors ({count} error nodes)"
  | extractionFailed path reason => s!"Error extracting declarations from {path}: {reason}"
  | discoveryStarted directory => s!"Discovering source files in {directory}"
  | discoveryEnded count => s!"Found {count} source files"
  | nothingFound source => s!"No source files found in {source}"
  | fileRejected path reason => s!"Invalid file {path}: {reason}"
  | fileCrashed path reason => s!"Unexpected error processing {path}: {reason}"
  | directoryDone stats => s!"Extraction complete: {stats}"
  | settingProblem problem fallback => s!"{problem}; {fallback}"
  | outputChosen path => s!"Output file      : {path}"
  | sourceFailed path reason => s!"Source failed: path={path} error={reason}"
  | unitsWritten count path => s!"Wrote {count} units to {path}"
  | runCounted stats => s!"Extraction stats: {stats}"
  | reportWritten path => s!"Run report written: {path}"
  | settingsInvalid reason => s!"Invalid configuration: {reason}"
  | noSources => "No sources given. Use --source or a config file with 'sources'."
  | runFailed reason => s!"Extraction failed: {reason}"

end Event
end DeclDocs.Log
