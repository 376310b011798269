import DeclDocs.Proofs.Attempt

/-!
Where the members of a record come from. Reading the members of a type goes through its member nodes
once and sorts what they give by kind. If it succeeds, the list of a kind holds, node by node, what
the member nodes of that kind give, and each of these nodes can be read. What a single member node
gives is determined by its kind: one record or, for a field statement, one for each name.
-/
namespace DeclDocs.Extract

open Syntax Log Attempt

variable {g : Grammar} {t : Tree}

section Variables

theorem name_ne_of_mem_declaratorTypes {declarators : List t.Node} {declared : String × Option String}
    (h : declared ∈ (Grammar.VisualBasic.declaratorTypes t declarators).1) : declared.1 ≠ "" := by
  induction declarators with
  | nil => simp [Grammar.VisualBasic.declaratorTypes] at h
  | cons d rest ih =>
    simp only [Grammar.VisualBasic.declaratorTypes] at h
    split at h
    · exact ih h
    · split at h
      · exact ih h
      · rename_i name _ hempty
        rcases List.mem_cons.mp h with rfl | hlater
        · simpa using hempty
        · exact ih hlater

/-- A field statement declares no empty name. -/
theorem name_ne_of_mem_fieldVariables {n : t.Node} {declared : String × Option String}
    (h : declared ∈ g.fieldVariables t n) : declared.1 ≠ "" := by
  cases g with
  | visualBasic => exact name_ne_of_mem_declaratorTypes h
  | csharp =>
    simp only [Grammar.fieldVariables, Grammar.CSharp.fieldVariables] at h
    split at h
    · simp at h
    · obtain ⟨declarator, -, hname⟩ := List.mem_filterMap.mp h
      split at hname
      · simp at hname
      · split at hname
        · simp at hname
        · rename_i name _ hempty
          rw [← Option.some.inj hname]
          simpa using hempty

end Variables

structure IsRecordOf (g : Grammar) (t : Tree) (n : t.Node) (kind : MemberKind) (d : Declaration) :
    Prop where
  named : d.name ≠ ""
  summary : d.summary = (documentation g t .summary n).value
  returns : d.returns =
    if kind = .method then some (documentation g t .returns n).value else none
  primitive : d.isPrimitive = g.isPrimitive d.typeName
  typeless : kind = .enumMember → d.typeName = none
  parameters : d.parameters ≠ some []
  parameterless : kind ≠ .method → d.parameters = none

section Builders

variable {owner : Option String} {n : t.Node} {d : Declaration}

theorem isRecordOf_buildProperty (h : outcome (buildProperty g t owner n) = .ok d) :
    IsRecordOf g t n .property d := by
  obtain ⟨name, hname, h⟩ := outcome_bind_eq_ok.mp h
  obtain ⟨summary, hsummary, h⟩ := outcome_bind_eq_ok.mp h
  obtain rfl := Except.ok.inj h
  obtain rfl := Except.ok.inj hsummary
  constructor <;> simp [givenName?_ne_empty (requireName_eq_ok.mp hname)]

theorem isRecordOf_buildEnumMember (h : outcome (buildEnumMember g t owner n) = .ok d) :
    IsRecordOf g t n .enumMember d := by
  obtain ⟨name, hname, h⟩ := outcome_bind_eq_ok.mp h
  obtain ⟨summary, hsummary, h⟩ := outcome_bind_eq_ok.mp h
  obtain rfl := Except.ok.inj h
  obtain rfl := Except.ok.inj hsummary
  constructor <;>
    simp [givenName?_ne_empty (requireName_eq_ok.mp hname), Grammar.isPrimitive, Grammar.isListed]

theorem isRecordOf_buildMethod (h : outcome (buildMethod g t owner n) = .ok d) :
    IsRecordOf g t n .method d := by
  obtain ⟨name, hname, h⟩ := outcome_bind_eq_ok.mp h
  obtain ⟨summary, hsummary, h⟩ := outcome_bind_eq_ok.mp h
  obtain ⟨returns, hreturns, h⟩ := outcome_bind_eq_ok.mp h
  obtain rfl := Except.ok.inj h
  obtain rfl := Except.ok.inj hsummary
  obtain rfl := Except.ok.inj hreturns
  have hne := givenName?_ne_empty (requireName_eq_ok.mp hname)
  unfold Declaration.attachParameters
  split
  · constructor <;> simp [hne]
  · rename_i hparameters
    constructor <;> simp_all

/-- What a field statement gives if it declares a name. -/
theorem buildFields_eq_ok {ds : List Declaration}
    (h : outcome (buildFields g t owner n) = .ok ds) :
    g.fieldVariables t n ≠ [] ∧ ds = (g.fieldVariables t n).map fun declared =>
      { name := declared.1
        summary := (documentation g t .summary n).value
        typeName := declared.2
        isPrimitive := g.isPrimitive declared.2 } := by
  simp only [buildFields] at h
  split at h
  · obtain ⟨_, hthrow, -⟩ := outcome_bind_eq_ok.mp h
    simp at hthrow
  · rename_i hdeclared
    obtain ⟨summary, hsummary, h⟩ := outcome_bind_eq_ok.mp h
    obtain rfl := Except.ok.inj h
    obtain rfl := Except.ok.inj hsummary
    exact ⟨by simpa using hdeclared, rfl⟩

theorem isRecordOf_buildFields {ds : List Declaration}
    (h : outcome (buildFields g t owner n) = .ok ds) :
    ds ≠ [] ∧ ∀ d ∈ ds, IsRecordOf g t n .field d := by
  obtain ⟨hdeclared, rfl⟩ := buildFields_eq_ok h
  refine ⟨by simpa using hdeclared, ?_⟩
  intro d hd
  obtain ⟨declared, hmem, rfl⟩ := List.mem_map.mp hd
  constructor <;> simp [name_ne_of_mem_fieldVariables hmem]

/-- A member node that can be read gives at least one record, and each tells about this node. -/
theorem isRecordOf_buildMember {kind : MemberKind} {ds : List Declaration}
    (h : outcome (buildMember g t owner n kind) = .ok ds) :
    ds ≠ [] ∧ ∀ d ∈ ds, IsRecordOf g t n kind d := by
  cases kind with
  | field => exact isRecordOf_buildFields h
  | property =>
    obtain ⟨d, hd, h⟩ := outcome_bind_eq_ok.mp h
    obtain rfl := Except.ok.inj h
    simpa using isRecordOf_buildProperty hd
  | method =>
    obtain ⟨d, hd, h⟩ := outcome_bind_eq_ok.mp h
    obtain rfl := Except.ok.inj h
    simpa using isRecordOf_buildMethod hd
  | enumMember =>
    obtain ⟨d, hd, h⟩ := outcome_bind_eq_ok.mp h
    obtain rfl := Except.ok.inj h
    simpa using isRecordOf_buildEnumMember hd

end Builders

section Collecting

def nodesOfKind (g : Grammar) (t : Tree) (kind : MemberKind) (nodes : List t.Node) : List t.Node :=
  nodes.filter fun c => g.memberKind? t c == some kind

def recordsAt (g : Grammar) (t : Tree) (owner : Option String) (kind : MemberKind) (c : t.Node) :
    List Declaration :=
  (record? (buildMember g t owner c kind)).getD []

theorem recordsAt_of_ok {owner : Option String} {kind : MemberKind} {c : t.Node}
    {ds : List Declaration} (h : outcome (buildMember g t owner c kind) = .ok ds) :
    recordsAt g t owner kind c = ds := by
  simp [recordsAt, record?, h, Except.toOption]

theorem get_add (m : Members) (added kind : MemberKind) (ds : List Declaration) :
    (m.add added ds).get kind = if added = kind then m.get kind ++ ds else m.get kind := by
  cases added <;> cases kind <;> rfl

variable {owner : Option String} {wanted : List MemberKind} {members result : Members}
  {nodes : List t.Node}

/-- Every node of a wanted kind was read, and gave what is recorded. -/
theorem buildMember_of_collectFrom
    (h : outcome (collectFrom g t owner wanted members nodes) = .ok result) {kind : MemberKind}
    (hkind : kind ∈ wanted) {c : t.Node} (hc : c ∈ nodesOfKind g t kind nodes) :
    outcome (buildMember g t owner c kind) = .ok (recordsAt g t owner kind c) := by
  induction nodes generalizing members with
  | nil => simp [nodesOfKind] at hc
  | cons n rest ih =>
    unfold collectFrom at h
    unfold nodesOfKind at hc ih
    rw [List.filter_cons] at hc
    cases hn : g.memberKind? t n with
    | none =>
      simp only [hn] at h hc
      exact ih h (by simpa using hc)
    | some found =>
      simp only [hn] at h hc
      by_cases hfound : wanted.contains found = true
      · rw [if_pos hfound] at h
        obtain ⟨ds, hds, h⟩ := outcome_bind_eq_ok.mp h
        by_cases hsame : found = kind
        · subst hsame
          rw [if_pos (by simp)] at hc
          rcases List.mem_cons.mp hc with rfl | hlater
          · rw [recordsAt_of_ok hds, hds]
          · exact ih h hlater
        · rw [if_neg (by simpa using hsame)] at hc
          exact ih h hc
      · rw [if_neg hfound] at h
        have hother : found ≠ kind := by
          rintro rfl
          exact hfound (by simpa using hkind)
        rw [if_neg (by simpa using hother)] at hc
        exact ih h hc

/-- The list of a wanted kind is extended by the records of the nodes of that kind, in order; the
other lists stay as they are. -/
theorem get_of_collectFrom
    (h : outcome (collectFrom g t owner wanted members nodes) = .ok result) (kind : MemberKind) :
    result.get kind = members.get kind ++
      if kind ∈ wanted then (nodesOfKind g t kind nodes).flatMap (recordsAt g t owner kind)
      else [] := by
  induction nodes generalizing members with
  | nil =>
    obtain rfl := Except.ok.inj h
    simp [nodesOfKind]
  | cons n rest ih =>
    unfold collectFrom at h
    unfold nodesOfKind at ih ⊢
    rw [List.filter_cons]
    cases hn : g.memberKind? t n with
    | none =>
      simp only [hn] at h
      simpa using ih h
    | some found =>
      simp only [hn] at h
      by_cases hfound : wanted.contains found = true
      · rw [if_pos hfound] at h
        obtain ⟨ds, hds, h⟩ := outcome_bind_eq_ok.mp h
        rw [ih h, get_add]
        by_cases hsame : found = kind
        · subst hsame
          have hmem : found ∈ wanted := by simpa using hfound
          simp [hmem, recordsAt_of_ok hds]
        · simp [hsame]
      · rw [if_neg hfound] at h
        rw [ih h]
        by_cases hsame : found = kind
        · subst hsame
          have hmem : found ∉ wanted := by simpa using hfound
          simp [hmem]
        · simp [hsame]

end Collecting

section Types

def membersOf (r : TypeRecord) : MemberKind → Option (List Declaration)
  | .property => r.properties
  | .field => r.fields
  | .method => r.methods
  | .enumMember => none

theorem orAbsent_eq_none_iff {items : List Declaration} : orAbsent items = none ↔ items = [] := by
  simp [orAbsent]

theorem orAbsent_eq_some_iff {items ds : List Declaration} :
    orAbsent items = some ds ↔ items = ds ∧ ds ≠ [] := by
  unfold orAbsent
  by_cases hempty : items = []
  · simp [hempty, eq_comm]
  · simp only [List.isEmpty_iff, hempty, if_false, Option.some.injEq]
    constructor
    · rintro rfl
      exact ⟨rfl, hempty⟩
    · exact fun h => h.1

variable {wanted : List MemberKind} {n : t.Node}

/-- The parts of a record that could be read. -/
theorem typeRecord_eq_ok {r : TypeRecord} (h : outcome (typeRecord g t wanted n) = .ok r) :
    givenName? t n = some r.name ∧ r.summary = (documentation g t .summary n).value ∧
      ∃ members, outcome (collectMembers g t (some r.name) wanted n) = .ok members ∧
        r.properties = orAbsent members.properties ∧ r.fields = orAbsent members.fields ∧
        r.methods = orAbsent members.methods := by
  obtain ⟨name, hname, h⟩ := outcome_bind_eq_ok.mp h
  obtain ⟨members, hmembers, h⟩ := outcome_bind_eq_ok.mp h
  obtain ⟨summary, hsummary, h⟩ := outcome_bind_eq_ok.mp h
  obtain rfl := Except.ok.inj h
  obtain rfl := Except.ok.inj hsummary
  exact ⟨requireName_eq_ok.mp hname, rfl, members, hmembers, rfl, rfl, rfl⟩

theorem enumRecord_eq_ok {r : EnumRecord} (h : outcome (enumRecord g t n) = .ok r) :
    givenName? t n = some r.name ∧ r.summary = (documentation g t .summary n).value ∧
      ∃ members, outcome (collectMembers g t (some r.name) [.enumMember] n) = .ok members ∧
        r.members = members.enumMembers := by
  obtain ⟨name, hname, h⟩ := outcome_bind_eq_ok.mp h
  obtain ⟨members, hmembers, h⟩ := outcome_bind_eq_ok.mp h
  obtain ⟨summary, hsummary, h⟩ := outcome_bind_eq_ok.mp h
  obtain rfl := Except.ok.inj h
  obtain rfl := Except.ok.inj hsummary
  exact ⟨requireName_eq_ok.mp hname, rfl, members, hmembers, rfl⟩

theorem classRecord_eq_ok {c : ClassRecord} (h : outcome (classRecord g t n) = .ok c) :
    outcome (structRecord g t n) = .ok c.toTypeRecord ∧ c.bases = g.bases t n := by
  obtain ⟨r, hr, h⟩ := outcome_bind_eq_ok.mp h
  obtain rfl := Except.ok.inj h
  exact ⟨hr, rfl⟩

/-- The members of a kind in the record of a type are those of its member nodes of that kind. -/
theorem membersOf_eq {r : TypeRecord} (h : outcome (typeRecord g t wanted n) = .ok r)
    (hwanted : .enumMember ∉ wanted) (kind : MemberKind) :
    membersOf r kind = orAbsent
      (if kind ∈ wanted then
        (nodesOfKind g t kind (g.memberNodes t n)).flatMap (recordsAt g t (some r.name) kind)
      else []) := by
  obtain ⟨-, -, members, hmembers, hproperties, hfields, hmethods⟩ := typeRecord_eq_ok h
  have hget := get_of_collectFrom hmembers kind
  have hempty : ({} : Members).get kind = [] := by cases kind <;> rfl
  rw [hempty, List.nil_append] at hget
  rw [← hget]
  cases kind with
  | property => exact hproperties
  | field => exact hfields
  | method => exact hmethods
  | enumMember =>
    rw [if_neg hwanted] at hget
    rw [hget]
    rfl

/-- Every member in the record of a type was read from a member node of its kind. -/
theorem exists_node_of_mem_membersOf {r : TypeRecord}
    (h : outcome (typeRecord g t wanted n) = .ok r) (hwanted : .enumMember ∉ wanted)
    {kind : MemberKind} {ds : List Declaration} (hds : membersOf r kind = some ds)
    {d : Declaration} (hd : d ∈ ds) :
    ∃ c ∈ nodesOfKind g t kind (g.memberNodes t n), ∃ part,
      outcome (buildMember g t (some r.name) c kind) = .ok part ∧ d ∈ part := by
  obtain ⟨-, -, members, hmembers, -⟩ := typeRecord_eq_ok h
  rw [membersOf_eq h hwanted, orAbsent_eq_some_iff] at hds
  obtain ⟨rfl, -⟩ := hds
  split at hd
  · rename_i hkind
    obtain ⟨c, hc, hdc⟩ := List.mem_flatMap.mp hd
    exact ⟨c, hc, _, buildMember_of_collectFrom hmembers hkind hc, hdc⟩
  · simp at hd

theorem exists_node_of_mem_enumRecord {r : EnumRecord} (h : outcome (enumRecord g t n) = .ok r)
    {d : Declaration} (hd : d ∈ r.members) :
    ∃ c ∈ nodesOfKind g t .enumMember (g.memberNodes t n), ∃ part,
      outcome (buildMember g t (some r.name) c .enumMember) = .ok part ∧ d ∈ part := by
  obtain ⟨-, -, members, hmembers, heq⟩ := enumRecord_eq_ok h
  have hget := get_of_collectFrom hmembers .enumMember
  rw [if_pos (by simp)] at hget
  rw [heq] at hd
  have hmem : d ∈ members.get .enumMember := hd
  rw [hget] at hmem
  obtain ⟨c, hc, hdc⟩ := List.mem_flatMap.mp (by simpa [Members.get] using hmem)
  exact ⟨c, hc, _, buildMember_of_collectFrom hmembers (by simp) hc, hdc⟩

end Types

end DeclDocs.Extract
