import DeclDocs.Extract.TypeDeclaration

/-!
Walking through a source unit. Types are read where they stand, namespaces are entered, and anything
else is passed over. A type that cannot be read leaves an error in the result and the walk goes on.
-/
namespace DeclDocs.Extract

open Syntax Log

variable (g : Grammar) (t : Tree)

/-- Add what an attempt yields to a result, or its error with the unit's name. -/
def settle {α : Type} (attempt : Attempt α) (kind : TypeKind) (line : Nat) (name : α → String)
    (add : UnitResult → α → UnitResult) (result : UnitResult) : Logged UnitResult := do
  match ← attempt.run with
  | .error e =>
      let error := e.inUnit result.unit
      Logged.report (.typeSkipped kind.word line error.text)
      return { result with errors := result.errors ++ [error] }
  | .ok record =>
      Logged.report (.typeExtracted kind.word (name record) result.unit)
      return add result record

/-- Read one type into a result. -/
def extractType (kind : TypeKind) (n : t.Node) (result : UnitResult) : Logged UnitResult :=
  match kind with
  | .classType =>
      settle (classRecord g t n) kind (t.line n) (·.name)
        (fun r c => { r with classes := r.classes ++ [c] }) result
  | .interfaceType =>
      settle (interfaceRecord g t n) kind (t.line n) (·.name)
        (fun r i => { r with interfaces := r.interfaces ++ [i] }) result
  | .structType =>
      settle (structRecord g t n) kind (t.line n) (·.name)
        (fun r s => { r with structs := r.structs ++ [s] }) result
  | .enumType =>
      settle (enumRecord g t n) kind (t.line n) (·.name)
        (fun r e => { r with enums := r.enums ++ [e] }) result

theorem le_resolve (n : t.Node) : n.val ≤ (g.resolve t n).val := by
  cases g with
  | csharp => exact Nat.le_refl _
  | visualBasic =>
      simp only [Grammar.resolve, Grammar.VisualBasic.resolve]
      split
      · cases found : (t.namedChildren n).find? fun c =>
            (Grammar.VisualBasic.declarationKinds.lookup (t.kind c)).isSome with
        | none => exact Nat.le_refl _
        | some c =>
            have member := List.mem_of_find?_eq_some found
            exact Nat.le_of_lt (Tree.lt_of_mem_children (List.mem_filter.mp member).1)
      · exact Nat.le_refl _

theorem lt_of_mem_containerNodes {n c : t.Node} (h : c ∈ g.containerNodes t n) : n.val < c.val := by
  cases g with
  | csharp =>
      simp only [Grammar.containerNodes, Grammar.CSharp.bodyNodes] at h
      split at h
      · simp at h
      · rename_i body found
        have inner := Tree.lt_of_mem_children (List.mem_filter.mp h).1
        have outer := Tree.lt_of_mem_children (List.mem_of_find?_eq_some found)
        exact Nat.lt_trans outer inner
  | visualBasic => exact Tree.lt_of_mem_children (List.mem_filter.mp h).1

/-- A node that the walk looks at. -/
def isVisited (n : t.Node) : Bool := !t.isComment n && (t.row n).named

/-- Add what one node of a container yields. `depth` counts the namespaces around it. -/
def walkNode (depth : Nat) (result : UnitResult) (child : t.Node) : Logged UnitResult :=
  if isVisited t child then
    let n := g.resolve t child
    match g.declarationKind? t n with
    | none => do
        Logged.report (.nodeSkipped (t.kind n) (t.line n))
        return result
    | some .namespaceNode => do
        let fresh : UnitResult := { unit := result.unit, grammar := result.grammar }
        let nested ← (g.containerNodes t n).attach.foldlM
          (fun inner c => walkNode (depth + 1) inner c.val) fresh
        Logged.report (.namespaceLeft (t.line n) (depth + 1) nested.declarationCount)
        return result.merge nested
    | some (.typeNode kind) => extractType g t kind n result
  else return result
termination_by t.rows.size - child.val
decreasing_by
  have outer := le_resolve g t child
  have inner := lt_of_mem_containerNodes g t c.property
  omega

/-- Add what the nodes of a container yield, one after the other. -/
def walk (depth : Nat) (result : UnitResult) (nodes : List t.Node) : Logged UnitResult :=
  nodes.foldlM (walkNode g t depth) result

/-- Everything a source unit declares. -/
def extractUnit (unit : String) : Logged UnitResult := do
  Logged.report (.unitEntered unit)
  let result ← walk g t 0 { unit, grammar := g.name } (t.children t.root)
  Logged.reportWhen (!result.errors.isEmpty) (.unitIncomplete result.errors.length unit)
  Logged.report (.unitLeft result.declarationCount unit)
  return result

end DeclDocs.Extract
