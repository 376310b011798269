import DeclDocs.Grammar.Kind
import DeclDocs.Syntax.Tree

/-!
The shapes of Visual Basic syntax trees. Blocks hold their members directly. A type block may stand
in a wrapper, and then the documentation comments precede the wrapper. In a field statement a
declarator without a type of its own takes the type of the next one that has it.
-/
namespace DeclDocs.Grammar.VisualBasic

open Syntax

def primitives : List String :=
  ["integer", "boolean", "sbyte", "byte", "short", "ushort", "uinteger", "long", "ulong", "int16",
   "uint16", "int32", "uint32", "int64", "uint64", "single", "double", "decimal", "char", "float",
   "void"]

/-- Nodes that may stand between a documentation comment and its declaration. -/
def layout : List String := ["blank_line", "attribute_block", "preprocessor_directive"]

def declarationKinds : List (String × DeclarationKind) :=
  [("class_block", .typeNode .classType),
   ("module_block", .typeNode .classType),
   ("interface_block", .typeNode .interfaceType),
   ("structure_block", .typeNode .structType),
   ("enum_block", .typeNode .enumType),
   ("namespace_block", .namespaceNode)]

def memberKinds : List (String × MemberKind) :=
  [("property_declaration", .property), ("field_declaration", .field),
   ("method_declaration", .method), ("enum_member", .enumMember)]

variable (t : Tree)

def isWrapper (n : t.Node) : Bool := t.kind n == "type_declaration"

/-- The declaration in a wrapper; any other node stands for itself. -/
def resolve (n : t.Node) : t.Node :=
  if isWrapper t n then
    ((t.namedChildren n).find? fun c => (declarationKinds.lookup (t.kind c)).isSome).getD n
  else n

/-- The node that the documentation comments precede. -/
def anchor (n : t.Node) : t.Node :=
  match t.parent? n with
  | none => n
  | some p => if isWrapper t p then p else n

/-- The type written behind `As`. -/
def asType (n : t.Node) : Option String :=
  (t.namedChildOfKind? n "as_clause").bind fun clause => t.fieldText? clause "type"

/-- A type with the array bounds written on the name. Bounds without text are shown as absent. -/
def withRank (n : t.Node) (typeName : Option String) : Option String :=
  match typeName, t.namedChildOfKind? n "array_rank_specifier" with
  | some name, some rank => some (name ++ (t.text? rank).getD "None")
  | _, _ => typeName

/-- The names of a list of declarators with their types, and the type that declarators before the
list take over. -/
def declaratorTypes : List t.Node → List (String × Option String) × Option String
  | [] => ([], none)
  | d :: rest =>
      let (later, following) := declaratorTypes rest
      let shared := (asType t d).or following
      match t.declaredName? d with
      | none => (later, shared)
      | some name =>
          if name.isEmpty then (later, shared) else ((name, withRank t d shared) :: later, shared)

/-- The names that a field statement declares, each with its type. -/
def fieldVariables (n : t.Node) : List (String × Option String) :=
  (declaratorTypes t ((t.namedChildren n).filter fun c => t.kind c == "variable_declarator")).1

/-- The type of a procedure without one is written `Void`. -/
def returnType (n : t.Node) : Option String :=
  match t.childByField? n "return_type" with
  | none => some "Void"
  | some type => t.text? type

def parameters (n : t.Node) : List (Option String) :=
  match t.childByField? n "parameters" with
  | none => []
  | some list => ((t.namedChildren list).filter fun c => t.kind c == "parameter").map t.text?

/-- The inherited types and then the implemented ones. -/
def bases (n : t.Node) : List (Option String) :=
  ["inherits", "implements"].flatMap fun field =>
    (t.childrenByField n field).flatMap fun clause =>
      ((t.namedChildren clause).filter fun c => t.kind c == "type").map t.text?

end DeclDocs.Grammar.VisualBasic
