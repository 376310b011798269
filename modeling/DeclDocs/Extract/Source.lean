import DeclDocs.Extract.Walk
import DeclDocs.Failure

/-!
From octets to records. The parser is given from outside: a function from a grammar and octets to a
syntax tree or a fault.
-/
namespace DeclDocs.Extract

open Syntax Log

structure Parser where
  parse : Grammar → List UInt8 → Except ParserFault Tree

/-- A computation that reports events and may fail. -/
abbrev Reading (α : Type) : Type := ExceptT Failure Logged α

def parseSource (parser : Parser) (g : Grammar) (source : List UInt8) : Reading Tree := do
  Logged.report (.parserCreated g.name)
  match parser.parse g source with
  | .error fault => throw (.parser fault)
  | .ok tree =>
      Logged.reportWhen tree.hasError .treeFaulty
      Logged.report (.sourceParsed source.length g.name)
      return tree

/-- The name of a unit that is not a file. -/
def memoryUnit : String := "<memory>"

/-- Everything that source text in memory declares. -/
def extractSource (parser : Parser) (grammar : String) (source : List UInt8) (unit : String) :
    Reading UnitResult := do
  let g ← ofExcept (Grammar.named grammar)
  let tree ← parseSource parser g source
  extractUnit g tree unit

/-- A parsed file. -/
structure ParsedFile where
  tree : Tree
  source : List UInt8
  grammar : Grammar

/-- Read a file; a refusal is reported. -/
def readSource (store : Store) (path : Path) : Reading (List UInt8) :=
  match store.read path with
  | .ok source => pure source
  | .error e => do
      if e.refusal == .noEntry then Logged.report (.fileMissing (Path.text path))
      else Logged.report (.fileUnreadable (Path.text path) e.message)
      throw (.refused e)

/-- The given grammar name, or that of the grammar for files like this one. -/
def grammarName (path : Path) : Option String → Except Failure String
  | some name => .ok name
  | none => (Grammar.forPath path).map Grammar.name

/-- Parse a file. Without a grammar its extension decides; a given name is looked up once the file
has been read. -/
def parseFile (store : Store) (parser : Parser) (path : Path) (grammar : Option String) :
    Reading ParsedFile := do
  let name ← ofExcept (grammarName path grammar)
  let source ← readSource store path
  let g ← ofExcept (Grammar.named name)
  let tree ← parseSource parser g source
  Logged.reportWhen tree.hasError (.fileFaulty (Path.text path))
  Logged.report (.fileParsed (Path.text path))
  return ⟨tree, source, g⟩

end DeclDocs.Extract
