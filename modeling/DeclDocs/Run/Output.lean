import DeclDocs.Files.Store
import DeclDocs.Json.Writer
import DeclDocs.Text.Utf8

/-!
The files a run leaves behind. Records are written as lines, each one JSON value followed by a line
break; a report is one JSON object that is named after its run.
-/
namespace DeclDocs.Output

/-- Records as text, one line each. -/
def lines (records : List Json) : List Char :=
  records.flatMap fun record => Json.compact record ++ ['\n']

/-- Start a file with nothing in it, making the directories around it. -/
def start (store : Store) (file : Path) : Except SystemError Store := do
  let around ← store.makeDirectories (Path.directory (store.absolute file))
  around.write file []

/-- Fill a file that has been started. -/
def fill (store : Store) (file : Path) (records : List Json) : Except SystemError Store :=
  store.write file (Text.Utf8.encode (lines records))

/-- Write records to a file of their own. -/
def writeLines (store : Store) (file : Path) (records : List Json) : Except SystemError Store := do
  let started ← start store file
  fill started file records

/-- Add a field at the end, unless there is one of that name. -/
def addMissing (name : String) (value : Json) (fields : List (String × Json)) :
    List (String × Json) :=
  if fields.any fun entry => entry.1 == name then fields else fields ++ [(name, value)]

/-- A report with the name of its run and the time of writing, where it does not have its own. -/
def stamped (run time : String) (fields : List (String × Json)) : List (String × Json) :=
  addMissing "timestamp_utc" (.str time) (addMissing "run_id" (.str run) fields)

def reportPath (directory : Path) (run : String) : Path :=
  Path.join directory (Path.ofString (run ++ ".json"))

/-- Write a report into a directory and say where it is. -/
def writeReport (store : Store) (directory : Path) (run time : String)
    (fields : List (String × Json)) : Except SystemError (Path × Store) := do
  let around ← store.makeDirectories directory
  let path := reportPath directory run
  let text := Json.indented (.obj (stamped run time fields))
  let written ← around.write path (Text.Utf8.encode text)
  return (path, written)

end DeclDocs.Output
