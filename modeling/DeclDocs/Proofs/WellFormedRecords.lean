import DeclDocs.Proofs.FlatWalk
import DeclDocs.Proofs.MemberLists

/-!
The shape of all records that a source unit yields, whatever its syntax tree looks like. Every name
is there, a list of members is absent exactly if the type has no member node of that kind, and what
does not apply to a kind of member is absent. Every error names the unit, and the type it occurred in
if that type has a name.
-/
namespace DeclDocs.Extract

open Syntax Log Attempt

structure IsWellFormedMember (g : Grammar) (kind : MemberKind) (d : Declaration) : Prop where
  named : d.name ≠ ""
  primitive : d.isPrimitive = g.isPrimitive d.typeName
  typeless : kind = .enumMember → d.typeName = none
  returns : d.returns.isSome = true ↔ kind = .method
  parameters : d.parameters ≠ some []
  parameterless : kind ≠ .method → d.parameters = none

/-- The shape of a class, an interface or a struct from which members of the given kinds are
collected. -/
structure IsWellFormedType (g : Grammar) (t : Tree) (wanted : List MemberKind) (n : t.Node)
    (r : TypeRecord) : Prop where
  named : r.name ≠ ""
  absent_iff : ∀ kind, membersOf r kind = none ↔
    kind ∉ wanted ∨ nodesOfKind g t kind (g.memberNodes t n) = []
  nonempty : ∀ kind, membersOf r kind ≠ some []
  members : ∀ kind ds, membersOf r kind = some ds → ∀ d ∈ ds, IsWellFormedMember g kind d

variable {g : Grammar} {t : Tree} {n : t.Node}

theorem IsRecordOf.isWellFormedMember {kind : MemberKind} {d : Declaration}
    (h : IsRecordOf g t n kind d) : IsWellFormedMember g kind d where
  named := h.named
  primitive := h.primitive
  typeless := h.typeless
  returns := by
    rw [h.returns]
    split <;> simp_all
  parameters := h.parameters
  parameterless := h.parameterless

theorem isWellFormedType_typeRecord {wanted : List MemberKind} {r : TypeRecord}
    (h : outcome (typeRecord g t wanted n) = .ok r) (hwanted : .enumMember ∉ wanted) :
    IsWellFormedType g t wanted n r where
  named := givenName?_ne_empty (typeRecord_eq_ok h).1
  absent_iff kind := by
    obtain ⟨-, -, members, hmembers, -⟩ := typeRecord_eq_ok h
    rw [membersOf_eq h hwanted, orAbsent_eq_none_iff]
    by_cases hkind : kind ∈ wanted
    · simp only [hkind, if_true, not_true_eq_false, false_or, List.flatMap_eq_nil_iff]
      constructor
      · intro hnil
        rw [List.eq_nil_iff_forall_not_mem]
        intro c hc
        -- A node that was read gave at least one record.
        exact (isRecordOf_buildMember (buildMember_of_collectFrom hmembers hkind hc)).1 (hnil c hc)
      · intro hnil c hc
        simp [hnil] at hc
    · simp [hkind]
  nonempty kind hnil := by
    rw [membersOf_eq h hwanted, orAbsent_eq_some_iff] at hnil
    exact hnil.2 rfl
  members kind ds hds d hd := by
    obtain ⟨c, -, part, hpart, hd⟩ := exists_node_of_mem_membersOf h hwanted hds hd
    exact ((isRecordOf_buildMember hpart).2 d hd).isWellFormedMember

/-- The error of an entry names the type at this entry, if it has a name. -/
theorem declaration_of_errorAt? {e : Entry t} {error : DeclarationError}
    (h : errorAt? g t e = some error) : error.declaration = givenName? t e.node := by
  have hfails : ∀ {α : Type} {attempt : Attempt α}, FailsIn t (givenName? t e.node) attempt →
      error? attempt = some error → error.declaration = givenName? t e.node := by
    intro α attempt hfails herror
    unfold error? at herror
    split at herror
    · rename_i cause hcause
      obtain ⟨c, fault, rfl⟩ := hfails cause hcause
      rw [← Option.some.inj herror]
      rfl
    · simp at herror
  unfold errorAt? at h
  split at h
  · exact hfails (failsIn_classRecord g t e.node) h
  · exact hfails (failsIn_typeRecord g t _ e.node) h
  · exact hfails (failsIn_typeRecord g t _ e.node) h
  · exact hfails (failsIn_enumRecord g t e.node) h

/-- All that a unit yields comes from the entries of the flat traversal of its tree. -/
theorem extractUnit_value (g : Grammar) (t : Tree) (unit : String) :
    (extractUnit g t unit).value = yieldOf g t unit g.name (flat g t (t.children t.root)) := by
  have hwalk := walk_value (g := g) 0 { unit, grammar := g.name } (t.children t.root)
  rw [nil_merge_yieldOf] at hwalk
  simp only [extractUnit, Logged.value_bind, Logged.value_pure, hwalk]

theorem exists_entry_of_record {α : Type} {kind : TypeKind} {read : t.Node → Attempt α}
    {entries : List (Entry t)} {record : α}
    (h : record ∈ entries.filterMap (recordAt? t kind read)) :
    ∃ n, ⟨kind, n⟩ ∈ entries ∧ outcome (read n) = .ok record := by
  obtain ⟨⟨found, n⟩, hentry, hrecord⟩ := List.mem_filterMap.mp h
  unfold recordAt? at hrecord
  split at hrecord
  · rename_i hkind
    obtain rfl : found = kind := hkind
    refine ⟨n, hentry, ?_⟩
    unfold record? at hrecord
    cases houtcome : outcome (read n) with
    | error e => simp [houtcome, Except.toOption] at hrecord
    | ok a => simpa [houtcome, Except.toOption] using hrecord
  · simp at hrecord

/-- Every record of a unit is well formed and was read from an entry of its kind, and every error
is that of an entry. -/
theorem extractUnit_wellFormed (g : Grammar) (t : Tree) (unit : String) :
    let result := (extractUnit g t unit).value
    let entries := flat g t (t.children t.root)
    (∀ c ∈ result.classes, ∃ n, ⟨.classType, n⟩ ∈ entries ∧ outcome (classRecord g t n) = .ok c ∧
      IsWellFormedType g t [.property, .field, .method] n c.toTypeRecord) ∧
    (∀ s ∈ result.structs, ∃ n, ⟨.structType, n⟩ ∈ entries ∧ outcome (structRecord g t n) = .ok s ∧
      IsWellFormedType g t [.property, .field, .method] n s) ∧
    (∀ i ∈ result.interfaces, ∃ n, ⟨.interfaceType, n⟩ ∈ entries ∧
      outcome (interfaceRecord g t n) = .ok i ∧ i.fields = none ∧
      IsWellFormedType g t [.property, .method] n i) ∧
    (∀ e ∈ result.enums, ∃ n, ⟨.enumType, n⟩ ∈ entries ∧ outcome (enumRecord g t n) = .ok e ∧
      e.name ≠ "" ∧ ∀ d ∈ e.members, IsWellFormedMember g .enumMember d) ∧
    ∀ e ∈ result.errors, e.unit = some unit ∧ ∃ entry ∈ entries, ∃ cause,
      errorAt? g t entry = some cause ∧ e = { cause with unit := some unit } ∧
      e.declaration = givenName? t entry.node := by
  intro result entries
  have hresult : result = yieldOf g t unit g.name entries := extractUnit_value g t unit
  refine ⟨?_, ?_, ?_, ?_, ?_⟩
  · intro c hc
    rw [hresult] at hc
    obtain ⟨n, hentry, hread⟩ := exists_entry_of_record hc
    exact ⟨n, hentry, hread, isWellFormedType_typeRecord (classRecord_eq_ok hread).1 (by decide)⟩
  · intro s hs
    rw [hresult] at hs
    obtain ⟨n, hentry, hread⟩ := exists_entry_of_record hs
    exact ⟨n, hentry, hread, isWellFormedType_typeRecord hread (by decide)⟩
  · intro i hi
    rw [hresult] at hi
    obtain ⟨n, hentry, hread⟩ := exists_entry_of_record hi
    have hshape := isWellFormedType_typeRecord hread (by decide)
    exact ⟨n, hentry, hread, (hshape.absent_iff .field).mpr (Or.inl (by decide)), hshape⟩
  · intro e he
    rw [hresult] at he
    obtain ⟨n, hentry, hread⟩ := exists_entry_of_record he
    refine ⟨n, hentry, hread, givenName?_ne_empty (enumRecord_eq_ok hread).1, ?_⟩
    intro d hd
    obtain ⟨c, -, part, hpart, hd⟩ := exists_node_of_mem_enumRecord hread hd
    exact ((isRecordOf_buildMember hpart).2 d hd).isWellFormedMember
  · intro e he
    rw [hresult] at he
    obtain ⟨cause, hcause, rfl⟩ := List.mem_map.mp he
    obtain ⟨entry, hentry, herror⟩ := List.mem_filterMap.mp hcause
    have hname : cause.declaration = givenName? t entry.node := declaration_of_errorAt? herror
    exact ⟨rfl, entry, hentry, cause, herror, rfl, hname⟩

def brokenEnum : Tree where
  source := "class C { int P => 1; } interface I { int f; } enum { A }".toList.map
    fun c => c.toNat.toUInt8
  rows := #[⟨none, "compilation_unit", 0, 57, true, false, false, ""⟩,
    ⟨some 0, "class_declaration", 0, 23, true, false, false, ""⟩,
    ⟨some 1, "identifier", 6, 7, true, false, false, "name"⟩,
    ⟨some 1, "declaration_list", 8, 23, true, false, false, "body"⟩,
    ⟨some 3, "property_declaration", 10, 21, true, false, false, ""⟩,
    ⟨some 4, "predefined_type", 10, 13, true, false, false, "type"⟩,
    ⟨some 4, "identifier", 14, 15, true, false, false, "name"⟩,
    ⟨some 0, "interface_declaration", 24, 46, true, false, false, ""⟩,
    ⟨some 7, "identifier", 34, 35, true, false, false, "name"⟩,
    ⟨some 7, "declaration_list", 36, 46, true, false, false, "body"⟩,
    ⟨some 9, "field_declaration", 38, 44, true, false, false, ""⟩,
    ⟨some 0, "enum_declaration", 47, 57, true, false, false, ""⟩,
    ⟨some 11, "identifier", 51, 51, true, true, false, "name"⟩]
  hasError := true
  nonempty := by decide
  placed := by decide +kernel

theorem brokenEnum_wellFormed :
    let result := (extractUnit .csharp brokenEnum "U").value
    (∃ c ∈ result.classes, c.name = "C" ∧
      (∃ d, c.properties = some [d] ∧ d.name = "P" ∧ IsWellFormedMember .csharp .property d) ∧
      ∃ n, IsWellFormedType .csharp brokenEnum [.property, .field, .method] n c.toTypeRecord) ∧
    (∃ i ∈ result.interfaces, i.name = "I" ∧ i.fields = none) ∧
    ∃ e ∈ result.errors, e.unit = some "U" ∧ e.declaration = none := by
  intro result
  obtain ⟨hclasses, -, hinterfaces, -, herrors⟩ := extractUnit_wellFormed .csharp brokenEnum "U"
  have hclass : result.classes.map (fun c => (c.name, c.properties.map (·.map (·.name)))) =
      [("C", some ["P"])] := by decide +kernel
  have hinterface : result.interfaces.map (·.name) = ["I"] := by decide +kernel
  have herror : result.errors.map (·.declaration) = [none] := by decide +kernel
  obtain ⟨c, hc, hcnames⟩ := List.mem_map.mp (hclass ▸ List.mem_singleton_self ("C", some ["P"]))
  obtain ⟨i, hi, hiname⟩ := List.mem_map.mp (hinterface ▸ List.mem_singleton_self "I")
  obtain ⟨e, he, hename⟩ := List.mem_map.mp (herror ▸ List.mem_singleton_self none)
  obtain ⟨hcname, hcproperties⟩ := Prod.mk.inj hcnames
  obtain ⟨ds, hds, hnames⟩ := Option.map_eq_some_iff.mp hcproperties
  obtain ⟨d, rfl, hdname⟩ := List.map_eq_singleton_iff.mp hnames
  obtain ⟨n, -, -, hshape⟩ := hclasses c hc
  obtain ⟨-, -, -, hfields, -⟩ := hinterfaces i hi
  have hmember : IsWellFormedMember .csharp .property d :=
    hshape.members .property [d] hds d (List.mem_singleton_self d)
  exact ⟨⟨c, hc, hcname, ⟨d, hds, hdname, hmember⟩, n, hshape⟩, ⟨i, hi, hiname, hfields⟩,
    e, he, (herrors e he).1, hename⟩

end DeclDocs.Extract
