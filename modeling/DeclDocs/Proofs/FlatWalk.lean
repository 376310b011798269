import DeclDocs.Extract.Walk
import DeclDocs.Proofs.Attempt

/-!
A walk collects exactly what a flat traversal meets. The traversal lists the type declarations
that lie under a list of nodes, namespaces opened up wherever they stand and types left closed.
A walk appends the records of these entries to the lists of its result, each kind to its own, and
the errors of the entries that cannot be read, all in the order of the traversal. The fresh result
that every namespace is collected into and the merge that follows leave no trace of their own.
-/
namespace DeclDocs.Extract

open Syntax Log Attempt

structure Entry (t : Tree) where
  kind : TypeKind
  node : t.Node

section Flat

variable (g : Grammar) (t : Tree)

/-- The type declarations at and below one node. A namespace stands for all that it contains, and
nothing inside a type is looked at. -/
def flatNode (child : t.Node) : List (Entry t) :=
  if isVisited t child then
    match g.declarationKind? t (g.resolve t child) with
    | none => []
    | some .namespaceNode =>
        (g.containerNodes t (g.resolve t child)).attach.flatMap fun c => flatNode c.val
    | some (.typeNode kind) => [⟨kind, g.resolve t child⟩]
  else []
termination_by t.rows.size - child.val
decreasing_by
  have houter := le_resolve g t child
  have hinner := lt_of_mem_containerNodes g t c.property
  omega

def flat (nodes : List t.Node) : List (Entry t) := nodes.flatMap (flatNode g t)

def recordAt? {α : Type} (kind : TypeKind) (read : t.Node → Attempt α) (e : Entry t) : Option α :=
  if e.kind = kind then record? (read e.node) else none

def errorAt? (e : Entry t) : Option DeclarationError :=
  match e.kind with
  | .classType => error? (classRecord g t e.node)
  | .interfaceType => error? (interfaceRecord g t e.node)
  | .structType => error? (structRecord g t e.node)
  | .enumType => error? (enumRecord g t e.node)

def classesOf (entries : List (Entry t)) : List ClassRecord :=
  entries.filterMap (recordAt? t .classType (classRecord g t))

def interfacesOf (entries : List (Entry t)) : List TypeRecord :=
  entries.filterMap (recordAt? t .interfaceType (interfaceRecord g t))

def structsOf (entries : List (Entry t)) : List TypeRecord :=
  entries.filterMap (recordAt? t .structType (structRecord g t))

def enumsOf (entries : List (Entry t)) : List EnumRecord :=
  entries.filterMap (recordAt? t .enumType (enumRecord g t))

def errorsOf (unit : String) (entries : List (Entry t)) : List DeclarationError :=
  (entries.filterMap (errorAt? g t)).map fun e => { e with unit := some unit }

def yieldOf (unit grammar : String) (entries : List (Entry t)) : UnitResult where
  unit := unit
  grammar := grammar
  classes := classesOf g t entries
  interfaces := interfacesOf g t entries
  structs := structsOf g t entries
  enums := enumsOf g t entries
  errors := errorsOf g t unit entries

end Flat

theorem merge_assoc (r s u : UnitResult) : (r.merge s).merge u = r.merge (s.merge u) := by
  simp [UnitResult.merge, List.append_assoc]

variable {g : Grammar} {t : Tree}

theorem merge_yieldOf_nil (r : UnitResult) (unit grammar : String) :
    r.merge (yieldOf g t unit grammar []) = r := by
  simp [UnitResult.merge, yieldOf, classesOf, interfacesOf, structsOf, enumsOf, errorsOf]

theorem nil_merge_yieldOf (unit grammar : String) (entries : List (Entry t)) :
    UnitResult.merge { unit, grammar } (yieldOf g t unit grammar entries) =
      yieldOf g t unit grammar entries := by
  simp [UnitResult.merge, yieldOf]

theorem yieldOf_append (unit grammar : String) (left right : List (Entry t)) :
    yieldOf g t unit grammar (left ++ right) =
      (yieldOf g t unit grammar left).merge (yieldOf g t unit grammar right) := by
  simp [UnitResult.merge, yieldOf, classesOf, interfacesOf, structsOf, enumsOf, errorsOf]

/-- The unit is named where the error is caught, and no error names one before. -/
theorem inUnit_of_unplaced {α : Type} {attempt : Attempt α} (h : Unplaced attempt)
    {e : DeclarationError} (he : outcome attempt = .error e) (unit : String) :
    e.inUnit unit = { e with unit := some unit } := by
  rw [DeclarationError.inUnit, h e he, Option.getD_none]

theorem settle_value {α : Type} {attempt : Attempt α} (hplace : Unplaced attempt)
    (kind : TypeKind) (line : Nat) (name : α → String) (add : UnitResult → α → UnitResult)
    (result : UnitResult) :
    (settle attempt kind line name add result).value =
      match outcome attempt with
      | .ok record => add result record
      | .error e =>
          { result with errors := result.errors ++ [{ e with unit := some result.unit }] } := by
  cases h : outcome attempt with
  | ok record =>
    have hrun : attempt.run.value = .ok record := h
    simp only [settle, Logged.value_bind, hrun, Logged.value_pure]
  | error e =>
    have hrun : attempt.run.value = .error e := h
    simp only [settle, Logged.value_bind, hrun, Logged.value_pure,
      inUnit_of_unplaced hplace h result.unit]

/-- Reading one type adds its record to the list of its kind, or its error. -/
theorem extractType_value (kind : TypeKind) (n : t.Node) (result : UnitResult) :
    (extractType g t kind n result).value =
      result.merge (yieldOf g t result.unit result.grammar [⟨kind, n⟩]) := by
  -- Of the five lists that the entry yields, four are empty and one has a single element.
  cases kind with
  | classType =>
    rw [extractType, settle_value (failsIn_classRecord g t n).unplaced]
    cases h : outcome (classRecord g t n) <;>
      simp [UnitResult.merge, yieldOf, classesOf, interfacesOf, structsOf, enumsOf, errorsOf,
        recordAt?, errorAt?, record?, error?, h, Except.toOption]
  | interfaceType =>
    have hplace : Unplaced (interfaceRecord g t n) := (failsIn_typeRecord g t _ n).unplaced
    rw [extractType, settle_value hplace]
    cases h : outcome (interfaceRecord g t n) <;>
      simp [UnitResult.merge, yieldOf, classesOf, interfacesOf, structsOf, enumsOf, errorsOf,
        recordAt?, errorAt?, record?, error?, h, Except.toOption]
  | structType =>
    have hplace : Unplaced (structRecord g t n) := (failsIn_typeRecord g t _ n).unplaced
    rw [extractType, settle_value hplace]
    cases h : outcome (structRecord g t n) <;>
      simp [UnitResult.merge, yieldOf, classesOf, interfacesOf, structsOf, enumsOf, errorsOf,
        recordAt?, errorAt?, record?, error?, h, Except.toOption]
  | enumType =>
    rw [extractType, settle_value (failsIn_enumRecord g t n).unplaced]
    cases h : outcome (enumRecord g t n) <;>
      simp [UnitResult.merge, yieldOf, classesOf, interfacesOf, structsOf, enumsOf, errorsOf,
        recordAt?, errorAt?, record?, error?, h, Except.toOption]

/-- Steps that each merge the yield of their own entries merge, one after the other, the yield of
all entries in order. -/
theorem foldlM_value {ι : Type} (step : UnitResult → ι → Logged UnitResult)
    (entries : ι → List (Entry t)) (items : List ι)
    (hstep : ∀ i ∈ items, ∀ r, (step r i).value =
      r.merge (yieldOf g t r.unit r.grammar (entries i)))
    (result : UnitResult) :
    (items.foldlM step result).value =
      result.merge (yieldOf g t result.unit result.grammar (items.flatMap entries)) := by
  induction items generalizing result with
  | nil => exact (merge_yieldOf_nil result _ _).symm
  | cons i rest ih =>
    have hrest : ∀ j ∈ rest, ∀ r, (step r j).value =
        r.merge (yieldOf g t r.unit r.grammar (entries j)) :=
      fun j hj => hstep j (List.mem_cons_of_mem i hj)
    have hfirst := hstep i List.mem_cons_self result
    rw [List.foldlM_cons, Logged.value_bind, ih hrest, hfirst, List.flatMap_cons, yieldOf_append,
      merge_assoc]
    rfl

/-- One node of a container adds what the flat traversal finds at and below it. -/
theorem walkNode_value (depth : Nat) (result : UnitResult) (child : t.Node) :
    (walkNode g t depth result child).value =
      result.merge (yieldOf g t result.unit result.grammar (flatNode g t child)) := by
  -- Induction on the rows behind the node; the nodes of a namespace stand behind it.
  induction hk : t.rows.size - child.val using Nat.strongRecOn generalizing
    depth result child with
  | ind k ih =>
    rw [walkNode, flatNode]
    by_cases hvisited : isVisited t child = true
    · simp only [hvisited, if_true]
      cases hkind : g.declarationKind? t (g.resolve t child) with
      | none => exact (merge_yieldOf_nil result _ _).symm
      | some declared =>
        cases declared with
        | typeNode kind => exact extractType_value kind _ result
        | namespaceNode =>
          have hinner := foldlM_value (g := g)
            (fun inner (c : { c // c ∈ g.containerNodes t (g.resolve t child) }) =>
              walkNode g t (depth + 1) inner c.val)
            (fun c => flatNode g t c.val) (g.containerNodes t (g.resolve t child)).attach
            (fun c _ r => by
              have houter := le_resolve g t child
              have hbelow := lt_of_mem_containerNodes g t c.property
              exact ih _ (by omega) (depth + 1) r c.val rfl)
            { unit := result.unit, grammar := result.grammar }
          simp only [Logged.value_bind, Logged.value_pure, hinner, nil_merge_yieldOf]
    · simp only [hvisited, Bool.false_eq_true, if_false]
      exact (merge_yieldOf_nil result _ _).symm

theorem walk_value (depth : Nat) (result : UnitResult) (nodes : List t.Node) :
    (walk g t depth result nodes).value =
      result.merge (yieldOf g t result.unit result.grammar (flat g t nodes)) :=
  foldlM_value (walkNode g t depth) (flatNode g t) nodes
    (fun child _ r => walkNode_value depth r child) result

def size (r : UnitResult) : Nat := r.declarationCount + r.errors.length

theorem size_merge (r s : UnitResult) : size (r.merge s) = size r + size s := by
  simp only [size, UnitResult.declarationCount, UnitResult.merge, List.length_append]
  omega

theorem size_settle {α : Type} {attempt : Attempt α} (hplace : Unplaced attempt)
    (kind : TypeKind) (line : Nat) (name : α → String) (add : UnitResult → α → UnitResult)
    (hadd : ∀ r record, size (add r record) = size r + 1) (result : UnitResult) :
    size (settle attempt kind line name add result).value = size result + 1 := by
  rw [settle_value hplace]
  cases outcome attempt with
  | ok record => exact hadd result record
  | error e => simp [size, UnitResult.declarationCount, Nat.add_assoc]

/-- Reading one type adds one record or one error, and never both. -/
theorem size_extractType (kind : TypeKind) (n : t.Node) (result : UnitResult) :
    size (extractType g t kind n result).value = size result + 1 := by
  cases kind with
  | classType =>
    apply size_settle (failsIn_classRecord g t n).unplaced
    intro r record
    simp only [size, UnitResult.declarationCount, List.length_append, List.length_singleton]
    omega
  | interfaceType =>
    apply size_settle (failsIn_typeRecord g t _ n).unplaced
    intro r record
    simp only [size, UnitResult.declarationCount, List.length_append, List.length_singleton]
    omega
  | structType =>
    apply size_settle (failsIn_typeRecord g t _ n).unplaced
    intro r record
    simp only [size, UnitResult.declarationCount, List.length_append, List.length_singleton]
    omega
  | enumType =>
    apply size_settle (failsIn_enumRecord g t n).unplaced
    intro r record
    simp only [size, UnitResult.declarationCount, List.length_append, List.length_singleton]
    omega

theorem size_yieldOf_singleton (unit grammar : String) (e : Entry t) :
    size (yieldOf g t unit grammar [e]) = 1 := by
  have hvalue := extractType_value (g := g) e.kind e.node { unit, grammar }
  have hsize := size_extractType (g := g) e.kind e.node { unit, grammar }
  rw [hvalue, nil_merge_yieldOf] at hsize
  simpa [size, UnitResult.declarationCount] using hsize

theorem size_yieldOf (unit grammar : String) (entries : List (Entry t)) :
    size (yieldOf g t unit grammar entries) = entries.length := by
  induction entries with
  | nil => rfl
  | cons e rest ih =>
    rw [← List.singleton_append, yieldOf_append, size_merge, size_yieldOf_singleton, ih,
      List.length_append, List.length_singleton]

/-- A walk extends each list of its result by what the entries of the flat traversal yield for it,
in order, and nothing else changes. The errors name the unit of the result. Every entry adds one
record or one error, however deep the namespaces around it are nested. -/
theorem walk_extends_by_flat (g : Grammar) (t : Tree) (depth : Nat) (result : UnitResult)
    (nodes : List t.Node) :
    let entries := flat g t nodes
    let final := (walk g t depth result nodes).value
    final.unit = result.unit ∧ final.grammar = result.grammar ∧
      final.classes = result.classes ++ classesOf g t entries ∧
      final.interfaces = result.interfaces ++ interfacesOf g t entries ∧
      final.structs = result.structs ++ structsOf g t entries ∧
      final.enums = result.enums ++ enumsOf g t entries ∧
      final.errors = result.errors ++ errorsOf g t result.unit entries ∧
      final.declarationCount + final.errors.length =
        result.declarationCount + result.errors.length + entries.length := by
  intro entries final
  have hfinal : final = result.merge (yieldOf g t result.unit result.grammar entries) :=
    walk_value depth result nodes
  have hsize : size final = size result + entries.length := by
    rw [hfinal, size_merge, size_yieldOf]
  refine ⟨?_, ?_, ?_, ?_, ?_, ?_, ?_, hsize⟩ <;> rw [hfinal] <;> rfl

def typesInNamespace : Tree where
  source := "namespace N{class A{}enum{}}".toList.map fun c => c.toNat.toUInt8
  rows := #[⟨none, "compilation_unit", 0, 28, true, false, false, ""⟩,
    ⟨some 0, "namespace_declaration", 0, 28, true, false, false, ""⟩,
    ⟨some 1, "identifier", 10, 11, true, false, false, "name"⟩,
    ⟨some 1, "declaration_list", 11, 28, true, false, false, "body"⟩,
    ⟨some 3, "class_declaration", 12, 21, true, false, false, ""⟩,
    ⟨some 4, "identifier", 18, 19, true, false, false, "name"⟩,
    ⟨some 3, "enum_declaration", 21, 27, true, false, false, ""⟩,
    ⟨some 6, "identifier", 25, 25, true, true, false, "name"⟩]
  hasError := true
  nonempty := by decide
  placed := by decide +kernel

example :
    let result : UnitResult :=
      { unit := "U", grammar := "csharp", classes := [{ name := "Z", summary := "" }] }
    let final := (walk .csharp typesInNamespace 0 result
      (typesInNamespace.children typesInNamespace.root)).value
    final.classes.map (·.name) = ["Z", "A"] ∧ final.enums = [] ∧
      final.errors = [⟨"enum_declaration at line 1 has no name", some "U", none⟩] := by
  decide +kernel

end DeclDocs.Extract
