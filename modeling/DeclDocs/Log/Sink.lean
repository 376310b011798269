import DeclDocs.Log.Context
import DeclDocs.Text.Blank
import DeclDocs.Text.Case

/-!
Where records go. There are handlers, and standard error has one of its own once logging has been
configured and there was no other. Until then records are written as bare messages, and without any
handler warnings and worse go to standard error. Configuring sets the threshold and tags every line
with its context.
-/
namespace DeclDocs.Log

/-- A written record, tagged with its context or bare. -/
structure Line where
  record : Record
  tagged : Bool
  deriving DecidableEq, Repr

def Line.text (l : Line) : String := if l.tagged then l.record.line else l.record.message

structure Sinks where
  /-- The number of handlers apart from that of standard error. -/
  handlers : Nat := 0
  onStandardError : Bool := false
  tagged : Bool := false
  threshold : Level := .warning
  deriving DecidableEq, Repr

namespace Sinks

def configure (s : Sinks) (threshold : Level) : Sinks :=
  { s with threshold, tagged := true, onStandardError := s.onStandardError || s.handlers == 0 }

/-- Whether a record is written at all. Only positive severities are. -/
def admits (s : Sinks) (r : Record) : Bool := 0 < r.level.severity && r.level.passes s.threshold

/-- What standard error gets. -/
def standardError (s : Sinks) (r : Record) : Option Line :=
  if !s.admits r then none
  else if s.onStandardError then some ⟨r, s.tagged⟩
  else if s.handlers == 0 && r.level.passes .warning then some ⟨r, false⟩
  else none

/-- What each of the handlers gets. -/
def handler (s : Sinks) (r : Record) : Option Line :=
  if s.admits r then some ⟨r, s.tagged⟩ else none

end Sinks

/-- The severity that a word names in any case, with blanks around it. -/
def Level.ofWord? (word : String) : Option Level :=
  Level.ofName? (Text.upperString (Text.trimString word))

/-- What is said about a word that names no severity. -/
def Level.unknownMessage (word : String) : String := "Unknown log level: " ++ word

/-- A scope that has been entered, with the value to go back to. -/
inductive Scope where
  | phase (outer : String)
  | unit (outer : String)
  deriving DecidableEq, Repr

/-- A session of logging: the context, the scopes entered and not left, innermost first, and where
records go. -/
structure Session where
  context : Context := {}
  scopes : List Scope := []
  sinks : Sinks := {}
  deriving DecidableEq, Repr

namespace Session

def enterPhase (s : Session) (phase : String) : Session :=
  { s with context := { s.context with phase }, scopes := .phase s.context.phase :: s.scopes }

def enterUnit (s : Session) (unit : String) : Session :=
  { s with context := { s.context with unit }, scopes := .unit s.context.unit :: s.scopes }

/-- Leave the innermost scope. -/
def leave (s : Session) : Session :=
  match s.scopes with
  | [] => s
  | .phase outer :: scopes => { s with context := { s.context with phase := outer }, scopes }
  | .unit outer :: scopes => { s with context := { s.context with unit := outer }, scopes }

/-- Name the run; without a name a generated one is taken. -/
def setRun (s : Session) (generated : String) (name : Option String) : Session :=
  let run := (name.filter fun n => !n.isEmpty).getD generated
  { s with context := { s.context with run } }

def configure (s : Session) (threshold : Level) : Session :=
  { s with sinks := s.sinks.configure threshold }

/-- Run a journal in the context of the session. -/
def run {α : Type} (s : Session) (x : Journal α) : Session × List Record × α :=
  let page := x s.context
  ({ s with context := page.context }, page.records, page.value)

end Session
end DeclDocs.Log
