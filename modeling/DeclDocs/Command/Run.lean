import DeclDocs.Command.Options
import DeclDocs.Log.Sink
import DeclDocs.Run.Execution

/-!
The command as a whole: read the options and the settings, extract all sources, and leave a report.
The report is written also when the run fails, and then holds the reason.
-/
namespace DeclDocs.Command

open Log

/-- What the command finds when it is started. -/
structure Surroundings where
  workspace : Workspace
  /-- What makes a value of the text of a settings file. -/
  reader : Settings.TextReader := Settings.parseText
  /-- The text that the switch for strict settings is set to. -/
  strictSwitch : Option String := none
  run : String
  time : String

/-- How the command ended: its exit code, or why no report could be written; the files afterwards
and the lines on standard error. -/
structure Outcome where
  exit : Except SystemError Nat
  store : Store
  lines : List Line

/-- What the command does not handle itself. -/
inductive Abort where
  | halt (reason : Halt)
  | settings (error : Settings.LoadError)
  deriving DecidableEq, Repr

/-- A text option that was given and is not empty. -/
def given? (text : Option String) : Option String := text.filter fun t => !t.isEmpty

/-- The sources of the command line replace those of the settings. The grammar of the command line
counts for every source that does not name its own. -/
def resolveSources (options : Options) (settings : Settings) : List SourceSpec :=
  if options.sources.isEmpty then
    settings.sources.map fun source =>
      { path := Path.text (settings.sourcePath source)
        grammar := (given? source.grammar).orElse fun _ => options.grammar }
  else options.sources.map fun path => { path, grammar := options.grammar }

/-- The lines that records give on standard error. -/
def linesOf (sinks : Sinks) (records : List Record) : List Line :=
  records.filterMap sinks.standardError

/-- The lines of events from before logging is configured. -/
def earlyLines (events : List Event) : List Line :=
  linesOf {} (events.map fun event => event.record {})

def loadSettings (s : Surroundings) (options : Options) :
    Logged (Except Settings.LoadError Settings) :=
  match given? options.config with
  | none => pure (.ok {})
  | some path =>
      (Settings.loadBy s.reader s.workspace.store (.ofStrict options.strict) (some Grammar.names)
        (Path.ofString path)).run

def pipeline : String := "docextract"

/-- The fields of the report of a run that has not succeeded so far. -/
def reportStart (run : String) : List (String × Json) :=
  [("run_id", .str run), ("pipeline", .str pipeline), ("status", .str Status.failed.word)]

/-- Give fields new values. -/
def update (fields new : List (String × Json)) : List (String × Json) :=
  new.foldl (fun found (name, value) => Json.putField name value found) fields

/-- Write a report and say where it is. -/
def leaveReport (s : Surroundings) (store : Store) (directory : Path)
    (fields : List (String × Json)) : Journal (Except SystemError Store) := do
  match Output.writeReport store directory s.run s.time fields with
  | .error e => return .error e
  | .ok (path, written) => do
      Journal.report (.reportWritten (Path.text path))
      return .ok written

/-- The end of a run that failed: its report holds the reason. -/
def fail (s : Surroundings) (store : Store) (directory : Path) (fields : List (String × Json))
    (reason : String) : Journal (Store × Except SystemError Nat) := do
  match ← leaveReport s store directory (update fields [("error", .str reason)]) with
  | .error e => return (store, .error e)
  | .ok written => do
      Journal.report (.runFailed reason)
      return (written, .ok 1)

/-- Extract and leave a report. -/
def runPlan (s : Surroundings) (plan : Plan) (directory : Path) :
    Journal (Store × Except SystemError Nat) := do
  let (store, result) ← execute s.workspace plan
  match result with
  | .error e => fail s store directory (reportStart s.run) e.message
  | .ok summary =>
      let fields := update (reportStart s.run) summary.fields
      match ← leaveReport s store directory fields with
      | .error e => fail s store directory fields e.message
      | .ok written => return (written, .ok (if summary.status = .failed then 1 else 0))

/-- What is to be done: the command line counts before the settings. -/
def planOf (options : Options) (settings : Settings) : Plan where
  sources := resolveSources options settings
  outputFile := (given? options.outputFile).getD settings.outputFile
  goOn := settings.continueOnError && !options.failFast
  excluded := settings.excluded

/-- Where the report goes. -/
def reportDirectoryOf (options : Options) (settings : Settings) : Path :=
  Path.ofString ((given? options.reportDirectory).getD settings.reportDirectory)

/-- Everything behind the settings. -/
def runWith (s : Surroundings) (options : Options) (settings : Settings) :
    Journal (Store × Except SystemError Nat) := do
  Journal.setRun s.run
  let plan := planOf options settings
  if plan.sources.isEmpty then
    Journal.report .noSources
    return (s.workspace.store, .ok 1)
  else runPlan s plan (reportDirectoryOf options settings)

/-- The threshold for log records: that of the command line counts before that of the settings. -/
def threshold (options : Options) (settings : Settings) : Level :=
  (options.logLevel.bind Level.ofWord?).getD settings.logLevel

def run (s : Surroundings) (words : List String) : Except Abort Outcome := do
  let options ← (Options.parse (Settings.switch false s.strictSwitch) words).mapError .halt
  let loaded := loadSettings s options
  let early := earlyLines loaded.events
  match loaded.value with
  | .error (.problem cause) =>
      let record := (Event.settingsInvalid cause.message).record {}
      return ⟨.ok 1, s.workspace.store, early ++ linesOf (Sinks.configure {} .info) [record]⟩
  | .error e => throw (.settings e)
  | .ok settings =>
      let page := runWith s options settings {}
      let sinks := Sinks.configure {} (threshold options settings)
      return ⟨page.value.2, page.value.1, early ++ linesOf sinks page.records⟩

end DeclDocs.Command
