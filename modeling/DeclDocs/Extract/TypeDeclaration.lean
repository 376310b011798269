import DeclDocs.Extract.Member

/-!
Records of types. The name comes first, then the members, then the documentation; the first of them
that cannot be read fails the whole record.
-/
namespace DeclDocs.Extract

open Syntax

/-- The list, or nothing if it is empty. -/
def orAbsent (items : List Declaration) : Option (List Declaration) :=
  if items.isEmpty then none else some items

variable (g : Grammar) (t : Tree)

def typeRecord (wanted : List MemberKind) (n : t.Node) : Attempt TypeRecord := do
  let name ← requireName t none n
  let members ← collectMembers g t (some name) wanted n
  let summary ← documentation g t .summary n
  return {
    name, summary
    properties := orAbsent members.properties
    fields := orAbsent members.fields
    methods := orAbsent members.methods }

def classRecord (n : t.Node) : Attempt ClassRecord := do
  let base ← typeRecord g t [.property, .field, .method] n
  return { toTypeRecord := base, bases := g.bases t n }

/-- Fields are not collected from an interface. -/
def interfaceRecord (n : t.Node) : Attempt TypeRecord := typeRecord g t [.property, .method] n

def structRecord (n : t.Node) : Attempt TypeRecord := typeRecord g t [.property, .field, .method] n

def enumRecord (n : t.Node) : Attempt EnumRecord := do
  let name ← requireName t none n
  let members ← collectMembers g t (some name) [.enumMember] n
  let summary ← documentation g t .summary n
  return { name, summary, members := members.enumMembers }

end DeclDocs.Extract
