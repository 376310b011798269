import DeclDocs.Files.Store
import DeclDocs.Json.Reader
import DeclDocs.Log.Logged
import DeclDocs.Settings.Problem
import DeclDocs.Text.Blank
import DeclDocs.Text.Case
import DeclDocs.Text.Utf8
import DeclDocs.Yaml.Reader

/-!
Settings of a run and how they are read from a file. A strict reader fails at the first problem; a
lenient one reports every problem and goes on with a standard value. Failures that are no problem of
the file's content, such as a directory in its place, end either reader.
-/
namespace DeclDocs

open Log Settings

/-- A file or a directory to extract, and the grammar of its files if it is given. -/
structure SourceSpec where
  path : String
  grammar : Option String := none
  deriving DecidableEq, Repr

structure Settings where
  sources : List SourceSpec := []
  excluded : Option (List String) := none
  outputFile : String := "output/declarations.jsonl"
  reportDirectory : String := "output/run_reports"
  continueOnError : Bool := true
  logLevel : Level := .info
  baseDirectory : String := "."
  deriving DecidableEq, Repr

namespace Settings

/-- The path of a source as seen from the settings file. -/
def sourcePath (s : Settings) (source : SourceSpec) : Path :=
  Path.tidy (Path.join (Path.ofString s.baseDirectory) (Path.ofString source.path))

/-- Whether a switch is on, by the text it is set to, if it is. -/
def switch (standard : Bool) : Option String → Bool
  | none => standard
  | some text =>
      ["1", "true", "yes", "on"].contains (Text.lowerString (Text.trimString text))

inductive Policy where
  | strict
  | lenient
  deriving DecidableEq, Repr

def Policy.ofStrict (isStrict : Bool) : Policy := if isStrict then .strict else .lenient

/-- Why settings cannot be read. -/
inductive LoadError where
  | problem (cause : Problem)
  | refused (error : SystemError)
  | notText
  | meaningless (reason : String)
  deriving DecidableEq, Repr

def LoadError.message : LoadError → String
  | .problem cause => cause.message
  | .refused error => error.message
  | .notText => ""
  | .meaningless reason => reason

abbrev Loading (α : Type) : Type := ExceptT LoadError Logged α

/-- Fail or report, as the policy demands. -/
def reject (policy : Policy) (cause : Problem) : Loading Unit :=
  match policy with
  | .strict => throw (.problem cause)
  | .lenient => Logged.report (.settingProblem cause.message cause.fallback)

/-- Line ends of all kinds become line feeds. -/
def unifyLineEnds : List Char → List Char
  | [] => []
  | '\r' :: '\n' :: rest => '\n' :: unifyLineEnds rest
  | '\r' :: rest => '\n' :: unifyLineEnds rest
  | c :: rest => c :: unifyLineEnds rest

/-- Why a text denotes no value: it is malformed, or well formed without a meaning. -/
inductive TextFault where
  | malformed (detail : String)
  | meaningless (reason : String)
  deriving DecidableEq, Repr

/-- The value that a text denotes; the path decides how it is written. -/
abbrev TextReader : Type := Path → List Char → Except TextFault Value

def TextFault.ofYaml : Yaml.Fault → TextFault
  | .malformed => .malformed ""
  | .meaningless reason => .meaningless reason

/-- JSON for paths that end so, and YAML for all others. No detail is given of what is malformed. -/
def parseText : TextReader := fun path text =>
  if Text.lower (Path.suffix path) == ".json".toList then
    match Json.parse? text with
    | some value => .ok (.ofJson value)
    | none => .error (.malformed "")
  else (Yaml.parse text).mapError .ofYaml

abbrev Entries : Type := List (Value × Value)

/-- The entries that a value brings. -/
def entriesOf (policy : Policy) (path : String) : Value → Loading Entries
  | .mapping entries => return entries
  | .null => do
      reject policy (.fileEmpty path)
      return []
  | other => do
      reject policy (.notMapping other.typeName)
      return []

/-- What a file holds: a value, or a problem in its place. Failures that are no problem of its
content are errors. -/
def contentOf (reader : TextReader) (store : Store) (path : Path) :
    Except LoadError (Except Problem Value) :=
  let place := Path.tidy path
  match store.read place with
  | .error e =>
      if e.refusal = .noEntry then .ok (.error (.fileMissing (Path.text place)))
      else .error (.refused e)
  | .ok octets =>
      match Text.Utf8.decode? octets with
      | none => .error .notText
      | some text =>
          match reader path (unifyLineEnds text) with
          | .ok value => .ok (.ok value)
          | .error (.malformed detail) => .ok (.error (.fileMalformed (Path.text place) detail))
          | .error (.meaningless reason) => .error (.meaningless reason)

/-- The entries of a file. -/
def readEntries (reader : TextReader) (store : Store) (policy : Policy) (path : Path) :
    Loading Entries :=
  match contentOf reader store path with
  | .error e => throw e
  | .ok (.ok value) => entriesOf policy (Path.text (Path.tidy path)) value
  | .ok (.error cause) => do
      reject policy cause
      return []

/-- A setting that has to pass a check; what does not pass is rejected and leaves the standard
value. -/
def readChecked {α : Type} (policy : Policy) (name : String) (check : Value → Option α)
    (cause : Value → Problem) (standard : α) (entries : Entries) : Loading α :=
  match setting? name entries with
  | none => return standard
  | some value =>
      match check value with
      | some a => return a
      | none => do
          reject policy (cause value)
          return standard

/-- The grammar that is written for a source, in lower case. -/
def writtenGrammar : Option Value → Option String
  | none => none
  | some .null => none
  | some value => some (Text.lowerString (Text.trimString value.asText))

/-- The grammar of a source, if it has one and it is known. -/
def sourceGrammar (policy : Policy) (known : Option (List String)) (path : String)
    (value : Option Value) : Loading (Option String) :=
  match writtenGrammar value with
  | none => return none
  | some grammar =>
      match known with
      | none => return some grammar
      | some names =>
          if names.contains grammar then return some grammar
          else do
            reject policy (.sourceGrammarUnknown path grammar names)
            return none

def writtenPath (entries : Entries) : String :=
  Text.trimString ((setting? "path" entries).map Value.asText |>.getD "")

/-- A source with entries of its own. -/
def sourceOfEntries (policy : Policy) (known : Option (List String)) (entries : Entries) :
    Loading (Option SourceSpec) := do
  let path := writtenPath entries
  if path.isEmpty then
    reject policy .sourceWithoutPath
    return none
  else
    let grammar ← sourceGrammar policy known path (setting? "grammar" entries)
    return some ⟨path, grammar⟩

/-- The entries of a source; a text alone is its path. -/
def sourceEntries? : Value → Option Entries
  | .text path => some [(.text "path", .text path)]
  | .mapping entries => some entries
  | _ => none

def source (policy : Policy) (known : Option (List String)) (value : Value) :
    Loading (Option SourceSpec) :=
  match sourceEntries? value with
  | some entries => sourceOfEntries policy known entries
  | none => do
      reject policy (.sourceNotEntry value.typeName)
      return none

def sourceList (policy : Policy) (known : Option (List String)) :
    List Value → Loading (List SourceSpec)
  | [] => return []
  | value :: rest => do
      let first ← source policy known value
      let later ← sourceList policy known rest
      return first.toList ++ later

def readSources (policy : Policy) (known : Option (List String)) (entries : Entries) :
    Loading (List SourceSpec) := do
  let values ← readChecked policy "sources" Value.items? (fun _ => .sourcesNotList) [] entries
  sourceList policy known values

/-- Names of directories, those that are blank left out; null is the same as no list. -/
def directoryNames? : Value → Option (Option (List String))
  | .null => some none
  | .list values =>
      (values.mapM Value.text?).map fun names =>
        some ((names.map Text.trimString).filter fun name => !name.isEmpty)
  | _ => none

/-- Names of directories that are not to be entered. -/
def readExcluded (policy : Policy) (entries : Entries) : Loading (Option (List String)) :=
  readChecked policy "exclude_dirs" directoryNames? (fun _ => .excludedNotNames) none entries

/-- A text setting; a value that does not count as given leaves the standard one. -/
def readText (name standard : String) (entries : Entries) : String :=
  match setting? name entries with
  | some value => if value.isGiven then value.asText else standard
  | none => standard

def readSwitch (policy : Policy) (name : String) (standard : Bool) (entries : Entries) :
    Loading Bool :=
  readChecked policy name Value.bool? (fun _ => .switchNotBool name standard) standard entries

/-- The severities that settings may name. -/
def levelNames : List (String × Level) :=
  [("DEBUG", .debug), ("INFO", .info), ("WARNING", .warning), ("ERROR", .error),
   ("CRITICAL", .critical)]

/-- The word for a severity, in upper case. -/
def levelWord (value : Value) : String := Text.upperString (Text.trimString value.asText)

def readLevel (policy : Policy) (standard : Level) (entries : Entries) : Loading Level :=
  readChecked policy "log_level" (fun value => levelNames.lookup (levelWord value))
    (fun value => .levelUnknown (levelWord value) standard.name) standard entries

/-- The directory of a settings file. -/
def baseOf (store : Store) (path : Path) : String :=
  Path.text (Path.directory (Path.resolve store.workingDirectory path))

/-- Read settings from a file, given how to read its text. Without known grammars a source may name
any. -/
def loadBy (reader : TextReader) (store : Store) (policy : Policy) (known : Option (List String))
    (path : Path) : Loading Settings := do
  let standard : Settings := {}
  let entries ← readEntries reader store policy path
  let sources ← readSources policy known entries
  let excluded ← readExcluded policy entries
  let continueOnError ←
    readSwitch policy "continue_on_error" standard.continueOnError entries
  let logLevel ← readLevel policy standard.logLevel entries
  return {
    sources, excluded, continueOnError, logLevel
    outputFile := readText "output_file" standard.outputFile entries
    reportDirectory := readText "report_dir" standard.reportDirectory entries
    baseDirectory := baseOf store path }

/-- Read settings from a JSON or YAML file. -/
def load : Store → Policy → Option (List String) → Path → Loading Settings := loadBy parseText

end Settings
end DeclDocs
