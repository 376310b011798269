import DeclDocs.Declaration
import DeclDocs.Extract.Documentation

/-!
Records of members. A member without a name, and a field statement that declares no name, cannot be
read; the error names the type around it.
-/
namespace DeclDocs.Extract

open Syntax Log

/-- A computation that reports events and may fail on a declaration. -/
abbrev Attempt (α : Type) : Type := ExceptT DeclarationError Logged α

/-- Why a node cannot be read. -/
inductive Fault where
  | nameless
  | declaresNothing
  deriving DecidableEq, Repr

def Fault.clause : Fault → String
  | .nameless => "has no name"
  | .declaresNothing => "declares no names"

/-- The error for a node of the given type around it. -/
def faultAt (t : Tree) (owner : Option String) (n : t.Node) (fault : Fault) : DeclarationError where
  message := t.kind n ++ " at line " ++ toString (t.line n) ++ " " ++ fault.clause
  declaration := owner

def requireName (t : Tree) (owner : Option String) (n : t.Node) : Attempt String :=
  match t.declaredName? n with
  | none => throw (faultAt t owner n .nameless)
  | some name => if name.isEmpty then throw (faultAt t owner n .nameless) else pure name

variable (g : Grammar) (t : Tree)

def buildProperty (owner : Option String) (n : t.Node) : Attempt Declaration := do
  let name ← requireName t owner n
  let summary ← documentation g t .summary n
  let typeName := g.propertyType t n
  return { name, summary, typeName, isPrimitive := g.isPrimitive typeName }

/-- One record for each name that a field statement declares; all share its summary. -/
def buildFields (owner : Option String) (n : t.Node) : Attempt (List Declaration) := do
  let declared := g.fieldVariables t n
  if declared.isEmpty then throw (faultAt t owner n .declaresNothing)
  let summary ← documentation g t .summary n
  return declared.map fun (name, typeName) =>
    { name, summary, typeName, isPrimitive := g.isPrimitive typeName }

def buildMethod (owner : Option String) (n : t.Node) : Attempt Declaration := do
  let name ← requireName t owner n
  let summary ← documentation g t .summary n
  let returns ← documentation g t .returns n
  let typeName := g.returnType t n
  let method : Declaration :=
    { name, summary, typeName, returns := some returns, isPrimitive := g.isPrimitive typeName }
  return method.attachParameters (g.parameters t n)

def buildEnumMember (owner : Option String) (n : t.Node) : Attempt Declaration := do
  let name ← requireName t owner n
  let summary ← documentation g t .summary n
  return { name, summary }

/-- The records of one member node of a kind. -/
def buildMember (owner : Option String) (n : t.Node) : MemberKind → Attempt (List Declaration)
  | .property => do return [← buildProperty g t owner n]
  | .field => buildFields g t owner n
  | .method => do return [← buildMethod g t owner n]
  | .enumMember => do return [← buildEnumMember g t owner n]

/-- Members sorted by kind. -/
structure Members where
  properties : List Declaration := []
  fields : List Declaration := []
  methods : List Declaration := []
  enumMembers : List Declaration := []

namespace Members

def get (m : Members) : MemberKind → List Declaration
  | .property => m.properties
  | .field => m.fields
  | .method => m.methods
  | .enumMember => m.enumMembers

def add (m : Members) (kind : MemberKind) (declarations : List Declaration) : Members :=
  match kind with
  | .property => { m with properties := m.properties ++ declarations }
  | .field => { m with fields := m.fields ++ declarations }
  | .method => { m with methods := m.methods ++ declarations }
  | .enumMember => { m with enumMembers := m.enumMembers ++ declarations }

end Members

/-- Add the members of the wanted kinds among the given nodes. -/
def collectFrom (owner : Option String) (wanted : List MemberKind) :
    Members → List t.Node → Attempt Members
  | members, [] => pure members
  | members, n :: rest =>
      match g.memberKind? t n with
      | none => collectFrom owner wanted members rest
      | some kind =>
          if wanted.contains kind then do
            let declarations ← buildMember g t owner n kind
            collectFrom owner wanted (members.add kind declarations) rest
          else collectFrom owner wanted members rest

/-- The members of a type that are of the wanted kinds. -/
def collectMembers (owner : Option String) (wanted : List MemberKind) (n : t.Node) :
    Attempt Members :=
  collectFrom g t owner wanted {} (g.memberNodes t n)

end DeclDocs.Extract
