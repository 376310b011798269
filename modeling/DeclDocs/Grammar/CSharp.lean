import DeclDocs.Grammar.Kind
import DeclDocs.Syntax.Tree

/-!
The shapes of C# syntax trees. Members and the contents of a namespace stand in a body; a field
statement holds one declaration with a type and several declarators; a parameter list is cut at its
commas, since not every parameter has a node of its own.
-/
namespace DeclDocs.Grammar.CSharp

open Syntax

def primitives : List String :=
  ["int", "bool", "sbyte", "byte", "short", "ushort", "int16", "uint16", "int32", "uint32", "int64",
   "uint64", "uint", "long", "ulong", "single", "double", "decimal", "char", "float", "void"]

/-- Directives that may stand between a documentation comment and its declaration. -/
def layout : List String :=
  ["preproc_region", "preproc_endregion", "preproc_pragma", "preproc_nullable", "preproc_define",
   "preproc_undef", "preproc_line", "preproc_warning", "preproc_error"]

def declarationKinds : List (String × DeclarationKind) :=
  [("class_declaration", .typeNode .classType),
   ("interface_declaration", .typeNode .interfaceType),
   ("struct_declaration", .typeNode .structType),
   ("enum_declaration", .typeNode .enumType),
   ("namespace_declaration", .namespaceNode)]

def memberKinds : List (String × MemberKind) :=
  [("property_declaration", .property), ("field_declaration", .field),
   ("method_declaration", .method), ("enum_member_declaration", .enumMember)]

variable (t : Tree)

/-- The named nodes in the body of a declaration. -/
def bodyNodes (n : t.Node) : List t.Node :=
  match t.childByField? n "body" with
  | none => []
  | some body => t.namedChildren body

/-- The names that a field statement declares, each with the written type. -/
def fieldVariables (n : t.Node) : List (String × Option String) :=
  match t.namedChildOfKind? n "variable_declaration" with
  | none => []
  | some declaration =>
      let typeName := t.fieldText? declaration "type"
      let declarators :=
        (t.namedChildren declaration).filter fun c => t.kind c == "variable_declarator"
      declarators.filterMap fun declarator =>
        match t.declaredName? declarator with
        | none => none
        | some name => if name.isEmpty then none else some (name, typeName)

def returnType (n : t.Node) : Option String := t.fieldText? n "returns"

/-- A parenthesis or a comment, which belongs to no parameter. -/
def isOutsideParameters (c : t.Node) : Bool :=
  t.kind c == "(" || t.kind c == ")" || t.isComment c

/-- The nodes between the commas of a list; groups without nodes are dropped. The group that is
still open is given newest first. -/
def parameterGroups : List t.Node → List t.Node → List (List t.Node)
  | group, [] => if group.isEmpty then [] else [group.reverse]
  | group, c :: rest =>
      if isOutsideParameters t c then parameterGroups group rest
      else if t.kind c == "," then
        (if group.isEmpty then [] else [group.reverse]) ++ parameterGroups [] rest
      else parameterGroups (c :: group) rest

/-- The written text of a group of nodes. -/
def groupText (list : t.Node) (group : List t.Node) : Option String :=
  match group.head?, group.getLast? with
  | some first, some last => some (t.spanText list first last)
  | _, _ => none

def parameters (n : t.Node) : List (Option String) :=
  match t.childByField? n "parameters" with
  | none => []
  | some list => (parameterGroups t [] (t.children list)).map (groupText t list)

def bases (n : t.Node) : List (Option String) :=
  match (t.children n).find? fun c => t.kind c == "base_list" with
  | none => []
  | some list => ((t.namedChildren list).filter fun c => !t.isComment c).map t.text?

end DeclDocs.Grammar.CSharp
