import DeclDocs.Proofs.ElementMatching
import DeclDocs.Proofs.MemberLists
import DeclDocs.Proofs.ResidualTags

/-!
The text that stands for a section that is not there cannot be mistaken for documentation. It starts
with a blank, while the text of a section is one line without blanks at its ends, whatever was
written in the section. So a record tells by its texts alone whether its declaration is documented: it
has a summary exactly if a closed section of that name stands at the top level of a block of comments
before the declaration, and the same holds of what a method returns.
-/
namespace DeclDocs.Doc

open Text

section Cleaned

variable {wanted : Section} {marker text line : List Char}

theorem dropSectionTags_subset (name : List Char) (skip : Nat) (text : List Char) :
    dropSectionTags name skip text ⊆ text := by
  induction text generalizing skip with
  | nil => cases skip <;> simp [dropSectionTags]
  | cons c rest ih =>
    cases skip with
    | succ skip => exact List.Subset.trans (ih skip) (List.subset_cons_self c rest)
    | zero =>
      rw [dropSectionTags]
      split
      · exact List.Subset.trans (ih _) (List.subset_cons_self c rest)
      · exact List.cons_subset_cons c (ih 0)

theorem stripMarker_subset (marker line : List Char) : stripMarker marker line ⊆ line := by
  unfold stripMarker
  split
  · rename_i rest hrest
    rw [dropStart?_eq_some_iff.mp hrest]
    exact List.Subset.trans (trim_isInfix rest).subset (List.subset_append_right marker rest)
  · exact List.Subset.refl line

theorem cleanLine_subset (wanted : Section) (marker line : List Char) :
    cleanLine wanted marker line ⊆ line :=
  calc cleanLine wanted marker line
      ⊆ dropSectionTags wanted.name.toList 0 (stripMarker marker (trim line)) :=
        (trim_isInfix _).subset
    _ ⊆ stripMarker marker (trim line) := dropSectionTags_subset _ 0 _
    _ ⊆ trim line := stripMarker_subset marker _
    _ ⊆ line := (trim_isInfix line).subset

/-- A line that is kept is part of one line, and has no blanks at its ends. -/
theorem unbroken_and_ink_of_keptLines (h : line ∈ keptLines wanted marker text) :
    '\n' ∉ line ∧ StartsInk line ∧ EndsInk line := by
  obtain ⟨⟨l, hl, rfl⟩, hne⟩ := mem_keptLines.mp h
  refine ⟨?_, ink_of_trim hne⟩
  intro hmem
  exact not_mem_of_mem_splitOn (List.mem_filter.mp hl).1 (cleanLine_subset wanted marker l hmem)

/-- Cleaned text has no blanks at its ends. -/
theorem trim_clean (wanted : Section) (marker text : List Char) :
    trim (clean wanted marker text) = clean wanted marker text := by
  rw [clean_eq_intercalate]
  by_cases hnil : keptLines wanted marker text = []
  · rw [hnil]
    rfl
  · obtain ⟨hstart, hend⟩ := ink_intercalate [' '] hnil
      fun line hline => (unbroken_and_ink_of_keptLines hline).2
    exact trim_eq_self hstart hend

/-- Cleaned text is one line. -/
theorem unbroken_clean (wanted : Section) (marker text : List Char) :
    '\n' ∉ clean wanted marker text := by
  rw [clean_eq_intercalate]
  intro hmem
  rcases mem_or_mem_of_mem_intercalate hmem with hsep | ⟨line, hline, hmem⟩
  · simp at hsep
  · exact (unbroken_and_ink_of_keptLines hline).1 hmem

end Cleaned

theorem isAbsent_eq_true_iff {text : String} :
    isAbsent (some text) = true ↔ ∃ s : Section, text = s.placeholder := by
  constructor
  · intro h
    obtain ⟨s, -, hs⟩ := List.any_eq_true.mp h
    exact ⟨s, by simpa using hs⟩
  · rintro ⟨s, rfl⟩
    cases s <;> decide

/-- No placeholder is what a section cleans to. -/
theorem placeholder_ne_clean (s wanted : Section) (marker text : List Char) :
    s.placeholder ≠ String.ofList (clean wanted marker text) := by
  intro heq
  have hchars : s.placeholder.toList = clean wanted marker text := by
    rw [heq, String.toList_ofList]
  have htrim : trim s.placeholder.toList = s.placeholder.toList := by
    rw [hchars]
    exact trim_clean wanted marker text
  have hne : trim s.placeholder.toList ≠ s.placeholder.toList := by cases s <;> decide +kernel
  exact hne htrim

end DeclDocs.Doc

namespace DeclDocs.Extract

open Syntax Doc Text Attempt

/-- A closed section of that name stands at the top level of a block of documentation comments
before the declaration. -/
def HasSection (g : Grammar) (t : Tree) (wanted : Section) (n : t.Node) : Prop :=
  ∃ lines ∈ blocks g.marker ((leadingComments t g.layout (g.anchor t n)).map (commentAt t)),
    ∃ i j, IsSectionStart (elementTags (blockText lines)) wanted.name.toList i ∧
      Matches (elementTags (blockText lines)) i j

theorem sectionInBlocks_eq_none_iff {wanted : Section} {found : List (List (List Char))} :
    (sectionInBlocks wanted found).value = none ↔
      ¬ ∃ lines ∈ found, ∃ i j,
        IsSectionStart (elementTags (blockText lines)) wanted.name.toList i ∧
          Matches (elementTags (blockText lines)) i j := by
  induction found with
  | nil => simp [sectionInBlocks]
  | cons lines rest ih =>
    have hanswers := search_answers (blockText lines) wanted
    rw [sectionInBlocks]
    cases hsearch : search (blockText lines) wanted with
    | found start stop =>
      rw [hsearch] at hanswers
      obtain ⟨i, j, -, -, hi, hmatch, -⟩ := hanswers
      simp only [Log.Logged.value_pure, reduceCtorEq, false_iff, not_not]
      exact ⟨lines, List.mem_cons_self, i, j, hi, hmatch⟩
    | absent unclosed =>
      rw [hsearch] at hanswers
      have hfirst : ¬ ∃ i j, IsSectionStart (elementTags (blockText lines)) wanted.name.toList i ∧
          Matches (elementTags (blockText lines)) i j := hanswers
      simp only [Log.Logged.value_bind, ih, List.mem_cons, exists_eq_or_imp, hfirst, false_or]

section Attached

variable (g : Grammar) (t : Tree) (wanted : Section) (n : t.Node)

def attached : Option (List Char) :=
  (attachedSection t g.layout g.marker wanted (g.anchor t n)).value

theorem attached_eq_none_iff : attached g t wanted n = none ↔ ¬ HasSection g t wanted n :=
  sectionInBlocks_eq_none_iff

theorem documentation_value :
    (documentation g t wanted n).value =
      match attached g t wanted n with
      | none => wanted.placeholder
      | some text => String.ofList (clean wanted g.marker.chars text) := by
  unfold documentation attached
  rw [Log.Logged.value_bind]
  cases (attachedSection t g.layout g.marker wanted (g.anchor t n)).value with
  | none => rfl
  | some text => rfl

/-- The documentation of a declaration is a placeholder only if it has no such section. -/
theorem placeholder_iff :
    (∃ s : Section, (documentation g t wanted n).value = s.placeholder) ↔
      attached g t wanted n = none := by
  rw [documentation_value]
  cases attached g t wanted n with
  | none => simp
  | some text =>
    simp only [reduceCtorEq, iff_false]
    rintro ⟨s, hs⟩
    exact placeholder_ne_clean s wanted g.marker.chars text hs.symm

theorem not_isAbsent_documentation_iff :
    (!isAbsent (some (documentation g t wanted n).value)) = true ↔ HasSection g t wanted n := by
  rw [Bool.not_eq_true', ← Bool.not_eq_true, isAbsent_eq_true_iff, placeholder_iff,
    attached_eq_none_iff, not_not]

end Attached

structure TellsDocs (g : Grammar) (t : Tree) (n : t.Node) (kind : MemberKind) (d : Declaration) :
    Prop where
  summary : d.hasSummary = true ↔ HasSection g t .summary n
  returns : d.hasReturns = true ↔ kind = .method ∧ HasSection g t .returns n

structure TypeTellsDocs (g : Grammar) (t : Tree) (n : t.Node) (r : TypeRecord) : Prop where
  summary : r.hasSummary = true ↔ HasSection g t .summary n
  members : ∀ kind ds, membersOf r kind = some ds → ∀ d ∈ ds,
    ∃ c ∈ nodesOfKind g t kind (g.memberNodes t n), ∃ part,
      outcome (buildMember g t (some r.name) c kind) = .ok part ∧ d ∈ part ∧ TellsDocs g t c kind d

variable {g : Grammar} {t : Tree} {n : t.Node}

theorem IsRecordOf.tellsDocs {kind : MemberKind} {d : Declaration} (h : IsRecordOf g t n kind d) :
    TellsDocs g t n kind d where
  summary := by
    rw [Declaration.hasSummary, h.summary]
    exact not_isAbsent_documentation_iff g t .summary n
  returns := by
    rw [Declaration.hasReturns, h.returns]
    by_cases hkind : kind = .method
    · rw [if_pos hkind]
      simpa [hkind] using not_isAbsent_documentation_iff g t .returns n
    · simp [hkind, isAbsent]

theorem typeTellsDocs_typeRecord {wanted : List MemberKind} {r : TypeRecord}
    (h : outcome (typeRecord g t wanted n) = .ok r) (hwanted : .enumMember ∉ wanted) :
    TypeTellsDocs g t n r where
  summary := by
    rw [TypeRecord.hasSummary, (typeRecord_eq_ok h).2.1]
    exact not_isAbsent_documentation_iff g t .summary n
  members kind ds hds d hd := by
    obtain ⟨c, hc, part, hpart, hd⟩ := exists_node_of_mem_membersOf h hwanted hds hd
    exact ⟨c, hc, part, hpart, hd, ((isRecordOf_buildMember hpart).2 d hd).tellsDocs⟩

/-- A placeholder stands exactly where no section is attached, and it is that of the section asked
for; all other texts are one line without blanks at the ends. So every record that can be read tells
whether its declaration has a summary, and whether a method tells what it returns. -/
theorem placeholder_tells_absence (g : Grammar) (t : Tree) (n : t.Node) :
    (∀ wanted : Section,
      let text := (documentation g t wanted n).value
      let found := (attachedSection t g.layout g.marker wanted (g.anchor t n)).value
      ((∃ s : Section, text = s.placeholder) ↔ found = none) ∧
      (found = none → text = wanted.placeholder) ∧
      (found ≠ none → trim text.toList = text.toList ∧ '\n' ∉ text.toList)) ∧
    (∀ owner kind ds, outcome (buildMember g t owner n kind) = .ok ds →
      ∀ d ∈ ds, TellsDocs g t n kind d) ∧
    (∀ c, outcome (classRecord g t n) = .ok c → TypeTellsDocs g t n c.toTypeRecord) ∧
    (∀ i, outcome (interfaceRecord g t n) = .ok i → TypeTellsDocs g t n i) ∧
    (∀ s, outcome (structRecord g t n) = .ok s → TypeTellsDocs g t n s) ∧
    ∀ e, outcome (enumRecord g t n) = .ok e →
      (e.hasSummary = true ↔ HasSection g t .summary n) ∧
      ∀ d ∈ e.members, ∃ c ∈ nodesOfKind g t .enumMember (g.memberNodes t n), ∃ part,
        outcome (buildMember g t (some e.name) c .enumMember) = .ok part ∧ d ∈ part ∧
        TellsDocs g t c .enumMember d := by
  refine ⟨fun wanted => ?_, ?_, ?_, ?_, ?_, ?_⟩
  · refine ⟨placeholder_iff g t wanted n, ?_, ?_⟩
    · intro hnone
      have hvalue := documentation_value g t wanted n
      rwa [attached, hnone] at hvalue
    · intro hsome
      obtain ⟨text, htext⟩ := Option.ne_none_iff_exists'.mp hsome
      rw [documentation_value, attached, htext]
      simp only [String.toList_ofList]
      exact ⟨trim_clean wanted _ text, unbroken_clean wanted _ text⟩
  · intro owner kind ds hds d hd
    exact ((isRecordOf_buildMember hds).2 d hd).tellsDocs
  · intro c hc
    exact typeTellsDocs_typeRecord (classRecord_eq_ok hc).1 (by decide)
  · intro i hi
    exact typeTellsDocs_typeRecord hi (by decide)
  · intro s hs
    exact typeTellsDocs_typeRecord hs (by decide)
  · intro e he
    refine ⟨?_, ?_⟩
    · rw [EnumRecord.hasSummary, (enumRecord_eq_ok he).2.1]
      exact not_isAbsent_documentation_iff g t .summary n
    · intro d hd
      obtain ⟨c, hc, part, hpart, hd⟩ := exists_node_of_mem_enumRecord he hd
      exact ⟨c, hc, part, hpart, hd, ((isRecordOf_buildMember hpart).2 d hd).tellsDocs⟩

def spelledPlaceholder : Tree where
  source := "/// <summary> NO SUMMARY </summary>\nclass C { void M() { } }".toList.map
    fun c => c.toNat.toUInt8
  rows := #[⟨none, "compilation_unit", 0, 60, true, false, false, ""⟩,
    ⟨some 0, "comment", 0, 35, true, false, false, ""⟩,
    ⟨some 0, "class_declaration", 36, 60, true, false, false, ""⟩,
    ⟨some 2, "identifier", 42, 43, true, false, false, "name"⟩,
    ⟨some 2, "declaration_list", 44, 60, true, false, false, "body"⟩,
    ⟨some 4, "method_declaration", 46, 58, true, false, false, ""⟩,
    ⟨some 5, "predefined_type", 46, 50, true, false, false, "returns"⟩,
    ⟨some 5, "identifier", 51, 52, true, false, false, "name"⟩,
    ⟨some 5, "parameter_list", 52, 54, true, false, false, "parameters"⟩]
  hasError := false
  nonempty := by decide
  placed := by decide +kernel

def undocumentedMethod : Declaration where
  name := "M"
  summary := " NO SUMMARY "
  typeName := some "void"
  returns := some " NO RETURNS "
  isPrimitive := true

theorem spelledPlaceholder_tells_docs :
    HasSection .csharp spelledPlaceholder .summary ⟨2, by decide⟩ ∧
      ¬ HasSection .csharp spelledPlaceholder .summary ⟨5, by decide⟩ ∧
      ¬ HasSection .csharp spelledPlaceholder .returns ⟨5, by decide⟩ := by
  have hclass : outcome (classRecord .csharp spelledPlaceholder ⟨2, by decide⟩) =
      .ok { name := "C", summary := "NO SUMMARY", methods := some [undocumentedMethod] } := by
    decide +kernel
  have hmethod : outcome (buildMember .csharp spelledPlaceholder none ⟨5, by decide⟩ .method) =
      .ok [undocumentedMethod] := by
    decide +kernel
  obtain ⟨-, -, htype, -⟩ := placeholder_tells_absence .csharp spelledPlaceholder ⟨2, by decide⟩
  obtain ⟨-, hmember, -⟩ := placeholder_tells_absence .csharp spelledPlaceholder ⟨5, by decide⟩
  have htells := hmember none .method _ hmethod _ List.mem_cons_self
  refine ⟨(htype _ hclass).summary.mp (by decide), ?_, ?_⟩
  · intro hsection
    exact absurd (htells.summary.mpr hsection) (by decide)
  · intro hsection
    exact absurd (htells.returns.mpr ⟨rfl, hsection⟩) (by decide)

end DeclDocs.Extract
