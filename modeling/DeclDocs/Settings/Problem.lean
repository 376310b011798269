import DeclDocs.Settings.Value

/-!
What can be wrong with a settings file, and what is done about it where the file is read leniently.
-/
namespace DeclDocs.Settings

inductive Problem where
  | fileMissing (path : String)
  | fileMalformed (path detail : String)
  | fileEmpty (path : String)
  | notMapping (typeName : String)
  | sourcesNotList
  | sourceNotEntry (typeName : String)
  | sourceWithoutPath
  | sourceGrammarUnknown (path grammar : String) (known : List String)
  | excludedNotNames
  | switchNotBool (name : String) (standard : Bool)
  | levelUnknown (word standard : String)
  deriving DecidableEq, Repr

namespace Problem

def message : Problem → String
  | fileMissing path => "Config file not found: " ++ path
  | fileMalformed path detail => "Failed to parse config at " ++ path ++ ": " ++ detail
  | fileEmpty path => "Config file is empty: " ++ path
  | notMapping typeName => "Unexpected config payload type: " ++ typeName
  | sourcesNotList => "'sources' must be a list"
  | sourceNotEntry typeName => "Source entry must be a path or an object, got " ++ typeName
  | sourceWithoutPath => "Source entry is missing 'path'"
  | sourceGrammarUnknown path grammar known =>
      "Source '" ++ path ++ "': unknown grammar '" ++ grammar ++ "' (expected one of " ++
        Text.quotedList known ++ ")"
  | excludedNotNames => "'exclude_dirs' must be a list of directory names"
  | switchNotBool name _ => "'" ++ name ++ "' must be true or false"
  | levelUnknown word _ => "Unknown log_level '" ++ word ++ "'"

/-- What a lenient reader does instead. -/
def fallback : Problem → String
  | fileMissing _ | fileMalformed .. => "continuing with defaults"
  | fileEmpty _ | notMapping _ | excludedNotNames => "using defaults"
  | sourcesNotList => "ignoring it"
  | sourceNotEntry _ | sourceWithoutPath => "skipping"
  | sourceGrammarUnknown .. => "detecting grammar per file"
  | switchNotBool _ standard => "using " ++ Value.boolText standard
  | levelUnknown _ standard => "using " ++ standard

end Problem
end DeclDocs.Settings
