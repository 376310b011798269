/-!
Severities of log records. A severity is a number; the usual ones have names, and some names are
second names for the same number.
-/
namespace DeclDocs.Log

structure Level where
  severity : Int
  deriving DecidableEq, Repr

namespace Level

def debug : Level := ⟨10⟩
def info : Level := ⟨20⟩
def warning : Level := ⟨30⟩
def error : Level := ⟨40⟩
def critical : Level := ⟨50⟩

/-- The names a severity can be asked for by, in upper case. -/
def byName : List (String × Level) :=
  [("CRITICAL", critical), ("FATAL", critical), ("ERROR", error), ("WARN", warning),
   ("WARNING", warning), ("INFO", info), ("DEBUG", debug), ("NOTSET", ⟨0⟩)]

def ofName? (name : String) : Option Level :=
  (byName.find? fun entry => entry.1 == name).map (·.2)

/-- The name shown in records; a number without a name is shown as such. -/
def name (level : Level) : String :=
  if level = critical then "CRITICAL"
  else if level = error then "ERROR"
  else if level = warning then "WARNING"
  else if level = info then "INFO"
  else if level = debug then "DEBUG"
  else if level = ⟨0⟩ then "NOTSET"
  else "Level " ++ toString level.severity

/-- Whether a record of this severity passes a threshold. -/
def passes (level threshold : Level) : Bool := threshold.severity ≤ level.severity

end Level
end DeclDocs.Log
