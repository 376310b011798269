import DeclDocs.Files.Discovery

/-!
Why a source cannot be extracted. Some failures are foreseen, such as a missing file or an unknown
grammar; all others come from outside and are reported as unexpected.
-/
namespace DeclDocs

/-- What a parser may fail with. -/
inductive FaultKind where
  | invalid
  | broken
  | system
  deriving DecidableEq, Repr

structure ParserFault where
  kind : FaultKind
  message : String
  deriving DecidableEq, Repr

inductive Failure where
  | fileNotFound (path : Path)
  | sourceNotFound (path : Path)
  | directoryNotFound (path : Path)
  | unknownGrammar (name : String)
  | unhandledExtension (extension : String) (path : Path)
  | refused (error : SystemError)
  | parser (fault : ParserFault)
  deriving DecidableEq, Repr

namespace Failure

def message : Failure → String
  | fileNotFound path => "File not found: " ++ Path.text path
  | sourceNotFound path => "Source not found: " ++ Path.text path
  | directoryNotFound path => "Directory not found: " ++ Path.text path
  | unknownGrammar name =>
      "Unknown grammar '" ++ name ++ "'. Expected one of: " ++ Text.quotedList Grammar.names
  | unhandledExtension extension path =>
      "No grammar handles files with extension '" ++ extension ++ "' (" ++ Path.text path ++ ")"
  | refused error => error.message
  | parser fault => fault.message

/-- Missing files and unusable values are foreseen. -/
def isForeseen : Failure → Bool
  | fileNotFound _ | sourceNotFound _ | directoryNotFound _ | unknownGrammar _
  | unhandledExtension .. => true
  | refused error => error.refusal == .noEntry
  | parser fault => fault.kind == .invalid

end Failure

/-- The grammar of that name. -/
def Grammar.named (name : String) : Except Failure Grammar :=
  match Grammar.ofName? name with
  | some g => .ok g
  | none => .error (.unknownGrammar name)

/-- The grammar that handles files like this one. -/
def Grammar.forPath (path : Path) : Except Failure Grammar :=
  let extension := Discovery.lowerExtension path
  match Grammar.ofExtension? extension with
  | some g => .ok g
  | none => .error (.unhandledExtension extension path)

end DeclDocs
