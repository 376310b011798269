/-!
The kinds of declarations and members that are told apart, with the words used for them in records
and reports.
-/
namespace DeclDocs

inductive TypeKind where
  | classType
  | interfaceType
  | structType
  | enumType
  deriving DecidableEq, Repr

def TypeKind.word : TypeKind → String
  | .classType => "class"
  | .interfaceType => "interface"
  | .structType => "struct"
  | .enumType => "enum"

/-- What a node at the level of a container declares. -/
inductive DeclarationKind where
  | typeNode (kind : TypeKind)
  | namespaceNode
  deriving DecidableEq, Repr

def DeclarationKind.word : DeclarationKind → String
  | .typeNode kind => kind.word
  | .namespaceNode => "namespace"

inductive MemberKind where
  | property
  | field
  | method
  | enumMember
  deriving DecidableEq, Repr

namespace MemberKind

def word : MemberKind → String
  | .property => "property"
  | .field => "field"
  | .method => "method"
  | .enumMember => "enum_member"

def all : List MemberKind := [.property, .field, .method, .enumMember]

def ofWord? (text : String) : Option MemberKind := all.find? fun kind => kind.word == text

end MemberKind
end DeclDocs
