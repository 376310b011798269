import DeclDocs.Proofs.MemberLists
import Mathlib.Data.List.Basic

/-!
What the members of a type come to, told by its member nodes one by one. A member node of a kind that
is asked for gives a part: its kind, and the records or the error of reading it. Collecting members
is nothing but putting these parts together, each to the list of its kind, up to the first error. So
it succeeds exactly if every part does, it fails with the first error whatever its kind, and member
nodes of other kinds have no say in it.
-/
namespace DeclDocs.Extract

open Syntax Attempt

structure Part where
  kind : MemberKind
  result : Except DeclarationError (List Declaration)
  deriving DecidableEq

section Assembling

def assemble : Members → List Part → Except DeclarationError Members
  | members, [] => .ok members
  | members, part :: rest => part.result.bind fun ds => assemble (members.add part.kind ds) rest

variable {members : Members} {parts : List Part}

theorem exists_assemble_iff :
    (∃ result, assemble members parts = .ok result) ↔ ∀ part ∈ parts, ∃ ds, part.result = .ok ds := by
  induction parts generalizing members with
  | nil => simp [assemble]
  | cons part rest ih =>
    cases hpart : part.result with
    | error e => simp [assemble, hpart, Except.bind]
    | ok ds => simp [assemble, hpart, Except.bind, ih]

theorem assemble_eq_error_iff {e : DeclarationError} :
    assemble members parts = .error e ↔ ∃ before part after, parts = before ++ part :: after ∧
      (∀ p ∈ before, ∃ ds, p.result = .ok ds) ∧ part.result = .error e := by
  induction parts generalizing members with
  | nil => simp [assemble]
  | cons first rest ih =>
    rw [assemble]
    cases hfirst : first.result with
    | error other =>
      simp only [Except.bind, Except.error.injEq]
      constructor
      · rintro rfl
        exact ⟨[], first, rest, rfl, by simp, hfirst⟩
      · rintro ⟨before, part, after, hparts, hbefore, hpart⟩
        cases before with
        | nil =>
          obtain ⟨rfl, -⟩ := List.cons.inj hparts
          exact Except.error.inj (hfirst.symm.trans hpart)
        | cons p before =>
          obtain ⟨rfl, -⟩ := List.cons.inj hparts
          obtain ⟨ds, hds⟩ := hbefore first List.mem_cons_self
          simp [hfirst] at hds
    | ok ds =>
      simp only [Except.bind]
      rw [ih]
      constructor
      · rintro ⟨before, part, after, rfl, hbefore, hpart⟩
        refine ⟨first :: before, part, after, rfl, ?_, hpart⟩
        intro p hp
        rcases List.mem_cons.mp hp with rfl | hlater
        · exact ⟨ds, hfirst⟩
        · exact hbefore p hlater
      · rintro ⟨before, part, after, hparts, hbefore, hpart⟩
        cases before with
        | nil =>
          obtain ⟨rfl, -⟩ := List.cons.inj hparts
          simp [hfirst] at hpart
        | cons p before =>
          obtain ⟨rfl, hrest⟩ := List.cons.inj hparts
          exact ⟨before, part, after, hrest, fun q hq => hbefore q (List.mem_cons_of_mem _ hq), hpart⟩

end Assembling

section Parts

variable (g : Grammar) (t : Tree) (owner : Option String) (wanted : List MemberKind)

def part? (c : t.Node) : Option Part :=
  ((g.memberKind? t c).filter fun kind => wanted.contains kind).map fun kind =>
    ⟨kind, outcome (buildMember g t owner c kind)⟩

def partsOf (nodes : List t.Node) : List Part := nodes.filterMap (part? g t owner wanted)

def IsRequested (c : t.Node) (kind : MemberKind) : Prop :=
  g.memberKind? t c = some kind ∧ kind ∈ wanted

def AllRead (nodes : List t.Node) : Prop :=
  ∀ c ∈ nodes, ∀ kind, IsRequested g t wanted c kind →
    ∃ ds, outcome (buildMember g t owner c kind) = .ok ds

variable {g t owner wanted}

theorem part?_eq_some_iff {c : t.Node} {part : Part} :
    part? g t owner wanted c = some part ↔ IsRequested g t wanted c part.kind ∧
      part.result = outcome (buildMember g t owner c part.kind) := by
  simp only [part?, Option.map_eq_some_iff, Option.filter_eq_some_iff, List.contains_iff_mem]
  constructor
  · rintro ⟨kind, hrequested, rfl⟩
    exact ⟨hrequested, rfl⟩
  · rintro ⟨hrequested, hresult⟩
    exact ⟨part.kind, hrequested, by rw [← hresult]⟩

/-- Collecting members puts the parts of the member nodes together. -/
theorem outcome_collectFrom (members : Members) (nodes : List t.Node) :
    outcome (collectFrom g t owner wanted members nodes) =
      assemble members (partsOf g t owner wanted nodes) := by
  induction nodes generalizing members with
  | nil => rfl
  | cons c rest ih =>
    rw [partsOf, List.filterMap_cons, part?, collectFrom]
    cases hkind : g.memberKind? t c with
    | none => exact ih members
    | some kind =>
      by_cases hwanted : wanted.contains kind = true
      · simp only [Option.filter_some, hwanted, if_true, Option.map_some, assemble, outcome_bind, ih]
        rfl
      · simp only [Option.filter_some, hwanted, Bool.false_eq_true, if_false, Option.map_none, ih]
        rfl

theorem forall_partsOf_iff {nodes : List t.Node} :
    (∀ part ∈ partsOf g t owner wanted nodes, ∃ ds, part.result = .ok ds) ↔
      AllRead g t owner wanted nodes := by
  constructor
  · intro h c hc kind hrequested
    exact h ⟨kind, outcome (buildMember g t owner c kind)⟩
      (List.mem_filterMap.mpr ⟨c, hc, part?_eq_some_iff.mpr ⟨hrequested, rfl⟩⟩)
  · intro h part hpart
    obtain ⟨c, hc, hsome⟩ := List.mem_filterMap.mp hpart
    obtain ⟨hrequested, hresult⟩ := part?_eq_some_iff.mp hsome
    rw [hresult]
    exact h c hc part.kind hrequested

/-- The first part that is an error belongs to the first member node that cannot be read. -/
theorem exists_first_failure_iff {nodes : List t.Node} {e : DeclarationError} :
    (∃ before part after, partsOf g t owner wanted nodes = before ++ part :: after ∧
      (∀ p ∈ before, ∃ ds, p.result = .ok ds) ∧ part.result = .error e) ↔
    ∃ before c after kind, nodes = before ++ c :: after ∧ AllRead g t owner wanted before ∧
      IsRequested g t wanted c kind ∧ outcome (buildMember g t owner c kind) = .error e := by
  constructor
  · rintro ⟨front, part, back, hparts, hfront, hpart⟩
    obtain ⟨left, right, rfl, rfl, hright⟩ := List.filterMap_eq_append_iff.mp hparts
    obtain ⟨passed, c, after, rfl, hpassed, hc, -⟩ := List.filterMap_eq_cons_iff.mp hright
    obtain ⟨hrequested, hresult⟩ := part?_eq_some_iff.mp hc
    refine ⟨left ++ passed, c, after, part.kind, by simp, ?_, hrequested, hresult ▸ hpart⟩
    -- The nodes passed over between the parts give no part at all.
    have hsame : partsOf g t owner wanted (left ++ passed) = partsOf g t owner wanted left := by
      rw [partsOf, List.filterMap_append, List.filterMap_eq_nil_iff.mpr hpassed, List.append_nil,
        partsOf]
    rw [← forall_partsOf_iff, hsame]
    exact hfront
  · rintro ⟨before, c, after, kind, rfl, hbefore, hrequested, herror⟩
    have hc : part? g t owner wanted c = some ⟨kind, outcome (buildMember g t owner c kind)⟩ :=
      part?_eq_some_iff.mpr ⟨hrequested, rfl⟩
    refine ⟨partsOf g t owner wanted before, ⟨kind, outcome (buildMember g t owner c kind)⟩,
      partsOf g t owner wanted after, ?_, forall_partsOf_iff.mpr hbefore, herror⟩
    rw [partsOf, List.filterMap_append, List.filterMap_cons, hc]
    rfl

end Parts

section Fields

variable {g : Grammar} {t : Tree}

/-- The nodes in a field statement that declare a name each. -/
def declarators (g : Grammar) (t : Tree) (n : t.Node) : List t.Node :=
  let declarator := fun c => t.kind c == "variable_declarator"
  match g with
  | .csharp =>
      match t.namedChildOfKind? n "variable_declaration" with
      | none => []
      | some declaration => (t.namedChildren declaration).filter declarator
  | .visualBasic => (t.namedChildren n).filter declarator

theorem names_declaratorTypes (nodes : List t.Node) :
    (Grammar.VisualBasic.declaratorTypes t nodes).1.map (·.1) = nodes.filterMap (givenName? t) := by
  induction nodes with
  | nil => rfl
  | cons d rest ih =>
    simp only [Grammar.VisualBasic.declaratorTypes, List.filterMap_cons, givenName?]
    cases hname : t.declaredName? d with
    | none => simpa using ih
    | some name =>
      by_cases hempty : name.isEmpty = true
      · simpa [hempty, Option.filter_some] using ih
      · simpa [hempty, Option.filter_some] using ih

/-- A field statement declares the names of its declarators that are not empty. -/
theorem names_fieldVariables (n : t.Node) :
    (g.fieldVariables t n).map (·.1) = (declarators g t n).filterMap (givenName? t) := by
  cases g with
  | visualBasic => exact names_declaratorTypes _
  | csharp =>
    simp only [Grammar.fieldVariables, Grammar.CSharp.fieldVariables, declarators]
    cases t.namedChildOfKind? n "variable_declaration" with
    | none => rfl
    | some declaration =>
      simp only [List.map_filterMap]
      refine List.filterMap_congr fun d _ => ?_
      unfold givenName?
      cases t.declaredName? d with
      | none => rfl
      | some name =>
        by_cases hempty : name.isEmpty = true
        · simp [hempty, Option.filter_some]
        · simp [hempty, Option.filter_some]

theorem names_buildFields {owner : Option String} {n : t.Node} {ds : List Declaration}
    (h : outcome (buildFields g t owner n) = .ok ds) :
    ds.map (·.name) = (declarators g t n).filterMap (givenName? t) := by
  obtain ⟨-, rfl⟩ := buildFields_eq_ok h
  rw [← names_fieldVariables, List.map_map]
  rfl

end Fields

/-- Collecting members succeeds exactly if every member node that is asked for can be read, and then
holds for each kind what its nodes give, in the order of the source. A field statement gives a record
for each name, all with its summary. Otherwise it fails with the error of the first node that cannot
be read, which names the type. Only the parts of the nodes that are asked for count. -/
theorem collectMembers_of_parts (g : Grammar) (t : Tree) (owner : Option String)
    (wanted : List MemberKind) (n : t.Node) :
    let nodes := g.memberNodes t n
    let collected := outcome (collectMembers g t owner wanted n)
    ((∃ members, collected = .ok members) ↔ AllRead g t owner wanted nodes) ∧
    (∀ members, collected = .ok members → ∀ kind ∈ wanted, ∃ lists : List (List Declaration),
      (nodesOfKind g t kind nodes).map (fun c => outcome (buildMember g t owner c kind)) =
        lists.map Except.ok ∧
      members.get kind = lists.flatten) ∧
    (∀ c ds, outcome (buildMember g t owner c .field) = .ok ds →
      ds.map (·.name) = (declarators g t c).filterMap (givenName? t) ∧
      ∀ d ∈ ds, d.summary = (documentation g t .summary c).value) ∧
    (∀ e, collected = .error e ↔
      ∃ before c after kind, nodes = before ++ c :: after ∧ AllRead g t owner wanted before ∧
        IsRequested g t wanted c kind ∧ outcome (buildMember g t owner c kind) = .error e) ∧
    (∀ e, collected = .error e → e.declaration = owner) ∧
    ∀ (t' : Tree) (n' : t'.Node),
      partsOf g t' owner wanted (g.memberNodes t' n') = partsOf g t owner wanted nodes →
      outcome (collectMembers g t' owner wanted n') = collected := by
  intro nodes collected
  have hcollected : collected = assemble {} (partsOf g t owner wanted nodes) :=
    outcome_collectFrom {} nodes
  refine ⟨?_, ?_, ?_, ?_, ?_, ?_⟩
  · rw [hcollected, exists_assemble_iff, forall_partsOf_iff]
  · intro members hmembers kind hkind
    refine ⟨(nodesOfKind g t kind nodes).map (recordsAt g t owner kind), ?_, ?_⟩
    · rw [List.map_map]
      exact List.map_congr_left fun c hc => buildMember_of_collectFrom hmembers hkind hc
    · have hempty : ({} : Members).get kind = [] := by cases kind <;> rfl
      rw [get_of_collectFrom hmembers kind, if_pos hkind, hempty, List.nil_append,
        List.flatMap_def]
  · intro c ds hds
    exact ⟨names_buildFields hds, fun d hd => ((isRecordOf_buildFields hds).2 d hd).summary⟩
  · intro e
    rw [hcollected, assemble_eq_error_iff, exists_first_failure_iff]
  · intro e he
    obtain ⟨c, fault, rfl⟩ := failsIn_collectFrom g t owner wanted {} nodes e he
    rfl
  · intro t' n' hparts
    rw [hcollected, ← hparts]
    exact outcome_collectFrom {} _

def brokenField : Tree where
  source := "interface I { int; void M(); int a, b; }".toList.map fun c => c.toNat.toUInt8
  rows := #[⟨none, "compilation_unit", 0, 40, true, false, false, ""⟩,
    ⟨some 0, "interface_declaration", 0, 40, true, false, false, ""⟩,
    ⟨some 1, "identifier", 10, 11, true, false, false, "name"⟩,
    ⟨some 1, "declaration_list", 12, 40, true, false, false, "body"⟩,
    ⟨some 3, "field_declaration", 14, 18, true, false, false, ""⟩,
    ⟨some 3, "method_declaration", 19, 28, true, false, false, ""⟩,
    ⟨some 5, "identifier", 24, 25, true, false, false, "name"⟩,
    ⟨some 3, "field_declaration", 29, 38, true, false, false, ""⟩,
    ⟨some 7, "variable_declaration", 29, 37, true, false, false, ""⟩,
    ⟨some 8, "variable_declarator", 33, 34, true, false, false, ""⟩,
    ⟨some 9, "identifier", 33, 34, true, false, false, "name"⟩,
    ⟨some 8, "variable_declarator", 36, 37, true, false, false, ""⟩,
    ⟨some 11, "identifier", 36, 37, true, false, false, "name"⟩]
  hasError := true
  nonempty := by decide
  placed := by decide +kernel

def methodOnly : Tree where
  source := "interface I { void M(); }".toList.map fun c => c.toNat.toUInt8
  rows := #[⟨none, "compilation_unit", 0, 25, true, false, false, ""⟩,
    ⟨some 0, "interface_declaration", 0, 25, true, false, false, ""⟩,
    ⟨some 1, "identifier", 10, 11, true, false, false, "name"⟩,
    ⟨some 1, "declaration_list", 12, 25, true, false, false, "body"⟩,
    ⟨some 3, "method_declaration", 14, 23, true, false, false, ""⟩,
    ⟨some 4, "identifier", 19, 20, true, false, false, "name"⟩]
  hasError := false
  nonempty := by decide
  placed := by decide +kernel

def methodPart : Part where
  kind := .method
  result := .ok [{ name := "M", summary := " NO SUMMARY ", returns := some " NO RETURNS " }]

/-- The field statement that declares nothing fails the members of a class, where fields are asked for,
and changes nothing for an interface; the other statement gives two records. -/
theorem collectMembers_of_brokenField :
    (∃ members, outcome (collectMembers .csharp brokenField (some "I") [.property, .method]
        ⟨1, by decide⟩) = .ok members ∧
      outcome (collectMembers .csharp methodOnly (some "I") [.property, .method]
        ⟨1, by decide⟩) = .ok members ∧
      ∃ lists : List (List Declaration), (nodesOfKind .csharp brokenField .method
          (Grammar.csharp.memberNodes brokenField ⟨1, by decide⟩)).map (fun c =>
            outcome (buildMember .csharp brokenField (some "I") c .method)) = lists.map Except.ok ∧
        members.get .method = lists.flatten) ∧
    (∃ e, outcome (collectMembers .csharp brokenField (some "I") [.property, .field, .method]
        ⟨1, by decide⟩) = .error e ∧ e.declaration = some "I") ∧
    ∃ ds, outcome (buildMember .csharp brokenField (some "I") ⟨7, by decide⟩ .field) = .ok ds ∧
      ds.map (·.name) =
        (declarators .csharp brokenField ⟨7, by decide⟩).filterMap (givenName? brokenField) := by
  obtain ⟨hreads, hlists, hfields, -, -, hsame⟩ := collectMembers_of_parts .csharp brokenField
    (some "I") [.property, .method] ⟨1, by decide⟩
  obtain ⟨-, -, -, hfails, hnames, -⟩ := collectMembers_of_parts .csharp brokenField (some "I")
    [.property, .field, .method] ⟨1, by decide⟩
  have hparts : partsOf .csharp brokenField (some "I") [.property, .method]
      (Grammar.csharp.memberNodes brokenField ⟨1, by decide⟩) = [methodPart] := by decide +kernel
  have hparts' : partsOf .csharp methodOnly (some "I") [.property, .method]
      (Grammar.csharp.memberNodes methodOnly ⟨1, by decide⟩) = [methodPart] := by decide +kernel
  obtain ⟨members, hmembers⟩ := hreads.mpr (forall_partsOf_iff.mp (by simp [hparts, methodPart]))
  have herror := (hfails (faultAt brokenField (some "I") ⟨4, by decide⟩ .declaresNothing)).mpr
    ⟨[], ⟨4, by decide⟩, [⟨5, by decide⟩, ⟨7, by decide⟩], .field, by decide +kernel,
      by simp [AllRead], ⟨by decide +kernel, by decide⟩, by decide +kernel⟩
  obtain ⟨ds, hds⟩ : ∃ ds, outcome (buildMember .csharp brokenField (some "I") ⟨7, by decide⟩
      .field) = .ok ds := by
    refine ⟨[{ name := "a", summary := " NO SUMMARY " }, { name := "b", summary := " NO SUMMARY " }], ?_⟩
    decide +kernel
  exact ⟨⟨members, hmembers, (hsame methodOnly _ (hparts'.trans hparts.symm)).trans hmembers,
    hlists members hmembers .method (by decide)⟩, ⟨_, herror, hnames _ herror⟩, ds, hds,
    (hfields _ ds hds).1⟩

end DeclDocs.Extract
