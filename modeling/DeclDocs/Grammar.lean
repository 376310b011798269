import DeclDocs.Doc.Comment
import DeclDocs.Grammar.CSharp
import DeclDocs.Grammar.VisualBasic
import DeclDocs.Text.Case
import DeclDocs.Text.Quoted

/-!
The two languages whose syntax trees are read, and every question about the shape of a node that
depends on the language. A grammar may be asked about any tree, also one of the other language.
-/
namespace DeclDocs

open Syntax

inductive Grammar where
  | csharp
  | visualBasic
  deriving DecidableEq, Repr

namespace Grammar

def all : List Grammar := [.csharp, .visualBasic]

def name : Grammar → String
  | .csharp => "csharp"
  | .visualBasic => "vb"

def names : List String := all.map name

def ofName? (text : String) : Option Grammar := all.find? fun g => g.name == text

def extensions : Grammar → List String
  | .csharp => [".cs"]
  | .visualBasic => [".vb"]

/-- The extensions of all grammars in increasing order. -/
def supportedExtensions : List String := all.flatMap extensions

def ofExtension? (extension : String) : Option Grammar :=
  all.find? fun g => g.extensions.contains extension

def marker : Grammar → Doc.Marker
  | .csharp => ⟨['/', '/'], '/'⟩
  | .visualBasic => ⟨['\x27', '\x27'], '\x27'⟩

def primitives : Grammar → List String
  | .csharp => CSharp.primitives
  | .visualBasic => VisualBasic.primitives

def layout : Grammar → List String
  | .csharp => CSharp.layout
  | .visualBasic => VisualBasic.layout

def declarationKinds : Grammar → List (String × DeclarationKind)
  | .csharp => CSharp.declarationKinds
  | .visualBasic => VisualBasic.declarationKinds

def memberKinds : Grammar → List (String × MemberKind)
  | .csharp => CSharp.memberKinds
  | .visualBasic => VisualBasic.memberKinds

/-- A written type is in a table if its lower-case spelling is; an absent one never is. -/
def isListed (table : List String) : Option String → Bool
  | none => false
  | some name => table.contains (Text.lowerString name)

def isPrimitive (g : Grammar) (typeName : Option String) : Bool := isListed g.primitives typeName

variable (g : Grammar) (t : Tree)

/-- The node that carries the shape of a declaration. -/
def resolve (n : t.Node) : t.Node :=
  match g with
  | .csharp => n
  | .visualBasic => VisualBasic.resolve t n

def declarationKind? (n : t.Node) : Option DeclarationKind := g.declarationKinds.lookup (t.kind n)

def memberKind? (n : t.Node) : Option MemberKind := g.memberKinds.lookup (t.kind n)

/-- The nodes directly inside a namespace. -/
def containerNodes (n : t.Node) : List t.Node :=
  match g with
  | .csharp => CSharp.bodyNodes t n
  | .visualBasic => t.namedChildren n

/-- The nodes directly inside a type. -/
def memberNodes (n : t.Node) : List t.Node :=
  match g with
  | .csharp => CSharp.bodyNodes t n
  | .visualBasic => t.namedChildren n

/-- The node that the documentation comments of a declaration precede. -/
def anchor (n : t.Node) : t.Node :=
  match g with
  | .csharp => n
  | .visualBasic => VisualBasic.anchor t n

def propertyType (n : t.Node) : Option String :=
  match g with
  | .csharp => t.fieldText? n "type"
  | .visualBasic => VisualBasic.asType t n

def fieldVariables (n : t.Node) : List (String × Option String) :=
  match g with
  | .csharp => CSharp.fieldVariables t n
  | .visualBasic => VisualBasic.fieldVariables t n

def returnType (n : t.Node) : Option String :=
  match g with
  | .csharp => CSharp.returnType t n
  | .visualBasic => VisualBasic.returnType t n

def parameters (n : t.Node) : List (Option String) :=
  match g with
  | .csharp => CSharp.parameters t n
  | .visualBasic => VisualBasic.parameters t n

def bases (n : t.Node) : List (Option String) :=
  match g with
  | .csharp => CSharp.bases t n
  | .visualBasic => VisualBasic.bases t n

end Grammar
end DeclDocs
