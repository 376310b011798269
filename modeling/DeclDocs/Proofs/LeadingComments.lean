import DeclDocs.Extract.Documentation
import Mathlib.Data.List.Sort
import Mathlib.Data.List.TakeWhile

/-!
Which comments belong to a node. Among the siblings of a node, a longest run of comments and layout
stands directly before it, and its leading comments are the comments of that run. A sibling that is
neither comment nor layout ends the run, so no comment leads two such nodes. The documentation of a
node is read from its run alone, in whatever tree the run stands.
-/
namespace DeclDocs.Extract

open Syntax Doc

section Siblings

variable {t : Tree} {n p c : t.Node}

def siblings (t : Tree) (n : t.Node) : List t.Node :=
  match t.parent? n with
  | none => [n]
  | some p => t.children p

theorem parent?_eq_some_iff : t.parent? n = some p ↔ (t.row n).parent = some p.val := by
  rw [Tree.parent?, Option.bind_eq_some_iff]
  constructor
  · rintro ⟨index, hparent, hnode⟩
    unfold Tree.node? at hnode
    split at hnode
    · rw [hparent, ← Option.some.inj hnode]
    · simp at hnode
  · intro hparent
    exact ⟨p.val, hparent, by simp [Tree.node?]⟩

theorem mem_children_iff_parent? : c ∈ t.children p ↔ t.parent? c = some p :=
  Tree.mem_children.trans parent?_eq_some_iff.symm

theorem mem_siblings_self (n : t.Node) : n ∈ siblings t n := by
  unfold siblings
  split
  · exact List.mem_singleton_self n
  · rename_i p hparent
    exact mem_children_iff_parent?.mpr hparent

theorem increasing_siblings (n : t.Node) : (siblings t n).Pairwise fun a b => a.val < b.val := by
  unfold siblings
  split
  · exact List.pairwise_singleton _ n
  · exact (List.sortedLT_finRange t.rows.size).pairwise.filter _

/-- The place of a node among its siblings tells which ones precede it. -/
theorem precedingSiblings_of_split {before after : List t.Node}
    (h : siblings t n = before ++ n :: after) : t.precedingSiblings n = before.reverse := by
  have hincreasing := increasing_siblings n
  rw [h] at hincreasing
  have hpass : ∀ s ∈ before, (s != n) = true := by
    intro s hs
    have hlt := (List.pairwise_append.mp hincreasing).2.2 s hs n List.mem_cons_self
    have hne : s ≠ n := by
      rintro rfl
      omega
    simpa using hne
  have htake : (before ++ n :: after).takeWhile (· != n) = before := by
    rw [List.takeWhile_append_of_pos hpass, List.takeWhile_cons_of_neg (by simp), List.append_nil]
  unfold siblings at h
  unfold Tree.precedingSiblings
  cases hparent : t.parent? n with
  | none =>
    rw [hparent] at h
    have hlength := congrArg List.length h
    simp only [List.length_cons, List.length_append, List.length_nil] at hlength
    obtain rfl : before = [] := List.length_eq_zero_iff.mp (by omega)
    rfl
  | some p =>
    rw [hparent] at h
    simp only at h
    simp only [h, htake]

end Siblings

section Runs

variable {t : Tree} {layout : List String} {n m c : t.Node}

/-- A comment, or layout: a node of a layout kind or an error without ink. -/
def IsTrivia (t : Tree) (layout : List String) (s : t.Node) : Prop :=
  t.kind s = "comment" ∨ t.kind s ∈ layout ∨
    (t.kind s = "ERROR" ∧ ∀ text, t.textChars? s = some text → ∀ c ∈ text, Text.isBlank c = true)

theorem isTrivia_iff {s : t.Node} :
    (t.isComment s || isLayout t layout s) = true ↔ IsTrivia t layout s := by
  have hblank : Text.allBlank ((t.textChars? s).getD []) = true ↔
      ∀ text, t.textChars? s = some text → ∀ c ∈ text, Text.isBlank c = true := by
    cases t.textChars? s with
    | none => simp [Text.allBlank]
    | some text => simp [Text.allBlank]
  simp [IsTrivia, Tree.isComment, isLayout, hblank]

/-- The longest run of comments and layout directly before a node. -/
structure IsLeadingRun (t : Tree) (layout : List String) (n : t.Node) (run : List t.Node) :
    Prop where
  precedes : ∃ gap after, siblings t n = gap ++ run ++ n :: after
  trivia : ∀ s ∈ run, IsTrivia t layout s
  longest : ∀ gap other after, siblings t n = gap ++ other ++ n :: after →
    (∀ s ∈ other, IsTrivia t layout s) → other.length ≤ run.length

def leadingRun (t : Tree) (layout : List String) (n : t.Node) : List t.Node :=
  ((t.precedingSiblings n).takeWhile fun s => t.isComment s || isLayout t layout s).reverse

/-- Whatever run of comments and layout stands before the node is passed over. -/
theorem isSuffix_leadingRun {gap run after : List t.Node}
    (hsplit : siblings t n = gap ++ run ++ n :: after) (htrivia : ∀ s ∈ run, IsTrivia t layout s) :
    run <:+ leadingRun t layout n := by
  have hpass : ∀ s ∈ run.reverse, (t.isComment s || isLayout t layout s) = true := by
    intro s hs
    exact isTrivia_iff.mpr (htrivia s (List.mem_reverse.mp hs))
  rw [leadingRun, precedingSiblings_of_split hsplit, List.reverse_append,
    List.takeWhile_append_of_pos hpass, List.reverse_append, List.reverse_reverse]
  exact List.suffix_append _ run

theorem isLeadingRun_leadingRun (t : Tree) (layout : List String) (n : t.Node) :
    IsLeadingRun t layout n (leadingRun t layout n) where
  precedes := by
    obtain ⟨before, after, hsplit⟩ := List.mem_iff_append.mp (mem_siblings_self n)
    refine ⟨((t.precedingSiblings n).dropWhile fun s =>
      t.isComment s || isLayout t layout s).reverse, after, ?_⟩
    rw [leadingRun, ← List.reverse_append, List.takeWhile_append_dropWhile,
      precedingSiblings_of_split hsplit, List.reverse_reverse, hsplit]
  trivia s hs := by
    rw [leadingRun, List.mem_reverse] at hs
    have hpass := List.mem_takeWhile_imp hs
    exact isTrivia_iff.mp hpass
  longest gap other after hsplit htrivia := (isSuffix_leadingRun hsplit htrivia).length_le

/-- There is only one longest run. -/
theorem IsLeadingRun.eq_leadingRun {run : List t.Node} (h : IsLeadingRun t layout n run) :
    run = leadingRun t layout n := by
  obtain ⟨gap, after, hsplit⟩ := h.precedes
  obtain ⟨gap', after', hsplit'⟩ := (isLeadingRun_leadingRun t layout n).precedes
  exact (isSuffix_leadingRun hsplit h.trivia).eq_of_length_le
    (h.longest gap' _ after' hsplit' (isLeadingRun_leadingRun t layout n).trivia)

theorem leadingComments_eq_filter (t : Tree) (layout : List String) (n : t.Node) :
    leadingComments t layout n = (leadingRun t layout n).filter fun s => t.isComment s := by
  rw [leadingComments, leadingRun, List.filter_reverse]

/-- The leading comments stand among the siblings before the node. -/
theorem leadingComments_sublist (t : Tree) (layout : List String) (n : t.Node) :
    ∃ before after, siblings t n = before ++ n :: after ∧
      (leadingComments t layout n).Sublist before := by
  obtain ⟨gap, after, hsplit⟩ := (isLeadingRun_leadingRun t layout n).precedes
  refine ⟨gap ++ leadingRun t layout n, after, hsplit, ?_⟩
  rw [leadingComments_eq_filter]
  exact List.filter_sublist.trans (List.sublist_append_right gap _)

theorem increasing_leadingComments (t : Tree) (layout : List String) (n : t.Node) :
    (leadingComments t layout n).Pairwise fun a b => a.val < b.val := by
  obtain ⟨before, after, hsplit, hsub⟩ := leadingComments_sublist t layout n
  have hincreasing := increasing_siblings n
  rw [hsplit] at hincreasing
  exact (List.pairwise_append.mp hincreasing).1.sublist hsub

theorem lt_of_mem_leadingComments (h : c ∈ leadingComments t layout n) : c.val < n.val := by
  obtain ⟨before, after, hsplit, hsub⟩ := leadingComments_sublist t layout n
  have hincreasing := increasing_siblings n
  rw [hsplit] at hincreasing
  exact (List.pairwise_append.mp hincreasing).2.2 c (hsub.subset h) n List.mem_cons_self

theorem exists_parent_of_mem_leadingComments (h : c ∈ leadingComments t layout n) :
    ∃ p, t.parent? c = some p ∧ t.parent? n = some p := by
  obtain ⟨before, after, hsplit, hsub⟩ := leadingComments_sublist t layout n
  have hmem : c ∈ siblings t n := hsplit ▸ List.mem_append_left _ (hsub.subset h)
  unfold siblings at hmem
  split at hmem
  · obtain rfl := List.mem_singleton.mp hmem
    exact absurd (lt_of_mem_leadingComments h) (Nat.lt_irrefl _)
  · rename_i p hparent
    exact ⟨p, mem_children_iff_parent?.mp hmem, hparent⟩

/-- The leading comments of a node stand behind every earlier sibling that ends a run. -/
theorem lt_of_not_isTrivia (hm : m ∈ siblings t n) (hlt : m.val < n.val)
    (hends : ¬ IsTrivia t layout m) (hc : c ∈ leadingComments t layout n) : m.val < c.val := by
  have hrun := isLeadingRun_leadingRun t layout n
  obtain ⟨gap, after, hsplit⟩ := hrun.precedes
  have hincreasing := increasing_siblings n
  rw [hsplit] at hm hincreasing
  obtain ⟨hbefore, hafter, -⟩ := List.pairwise_append.mp hincreasing
  rw [leadingComments_eq_filter] at hc
  rcases List.mem_append.mp hm with hm | hm
  · rcases List.mem_append.mp hm with hgap | hin
    · exact (List.pairwise_append.mp hbefore).2.2 m hgap c (List.mem_filter.mp hc).1
    · exact absurd (hrun.trivia m hin) hends
  · rcases List.mem_cons.mp hm with rfl | hlater
    · omega
    · have hgt := (List.pairwise_cons.mp hafter).1 m hlater
      omega

/-- No comment leads both a node that ends a run and a later node. -/
theorem disjoint_leadingComments (hlt : m.val < n.val) (hends : ¬ IsTrivia t layout m) :
    (leadingComments t layout m).Disjoint (leadingComments t layout n) := by
  intro c hcm hcn
  obtain ⟨p, hc, hmparent⟩ := exists_parent_of_mem_leadingComments hcm
  obtain ⟨q, hc', hnparent⟩ := exists_parent_of_mem_leadingComments hcn
  obtain rfl : p = q := Option.some.inj (hc.symm.trans hc')
  have hm : m ∈ siblings t n := by
    rw [siblings, hnparent]
    exact mem_children_iff_parent?.mpr hmparent
  have hbefore := lt_of_not_isTrivia hm hlt hends hcn
  have hafter := lt_of_mem_leadingComments hcm
  omega

end Runs

section Outlines

structure Outline where
  kind : String
  text : Option (List Char)
  firstRow : Nat
  lastRow : Nat
  deriving DecidableEq

def outline (t : Tree) (n : t.Node) : Outline :=
  ⟨t.kind n, t.textChars? n, t.firstRow n, t.lastRow n⟩

def commentsIn (outlines : List Outline) : List Comment :=
  (outlines.filter fun o => o.kind == "comment").map fun o =>
    ⟨o.text.getD [], o.firstRow, o.lastRow⟩

/-- The comments that are read before a node are those in the outlines of its run. -/
theorem map_commentAt_leadingComments (t : Tree) (layout : List String) (n : t.Node) :
    (leadingComments t layout n).map (commentAt t) =
      commentsIn ((leadingRun t layout n).map (outline t)) := by
  rw [leadingComments_eq_filter, commentsIn, List.filter_map, List.map_map]
  rfl

end Outlines

/-- The leading comments of a node are the comments of the longest run of comments and layout before
it, in their order and each once. So no comment leads two nodes that end runs, and whether a section
is found before a node, and which, depends on the outlines of its run alone. -/
theorem leadingComments_of_run (t : Tree) (layout : List String) (n : t.Node) :
    (∃ run, IsLeadingRun t layout n run) ∧
    (∀ run, IsLeadingRun t layout n run →
      leadingComments t layout n = run.filter fun s => t.kind s = "comment") ∧
    (leadingComments t layout n).Pairwise (fun a b => a.val < b.val) ∧
    (∀ m, m ≠ n → ¬ IsTrivia t layout m → ¬ IsTrivia t layout n →
      (leadingComments t layout m).Disjoint (leadingComments t layout n)) ∧
    ∀ (t' : Tree) (n' : t'.Node) (run : List t.Node) (run' : List t'.Node),
      IsLeadingRun t layout n run → IsLeadingRun t' layout n' run' →
      run.map (outline t) = run'.map (outline t') → ∀ marker wanted,
      attachedSection t layout marker wanted n = attachedSection t' layout marker wanted n' := by
  refine ⟨⟨_, isLeadingRun_leadingRun t layout n⟩, ?_, increasing_leadingComments t layout n, ?_, ?_⟩
  · intro run hrun
    rw [hrun.eq_leadingRun, leadingComments_eq_filter]
    rfl
  · intro m hne hm hn
    rcases Nat.lt_or_gt_of_ne (Fin.val_ne_of_ne hne) with hlt | hgt
    · exact disjoint_leadingComments hlt hm
    · exact List.disjoint_symm (disjoint_leadingComments hgt hn)
  · intro t' n' run run' hrun hrun' hagree marker wanted
    rw [attachedSection, attachedSection, map_commentAt_leadingComments,
      map_commentAt_leadingComments, ← hrun.eq_leadingRun, ← hrun'.eq_leadingRun, hagree]

/-- A class and an enum, each behind a comment of its own. Error recovery has left a line end between
the second comment and the enum. -/
def classAndEnum : Tree where
  source := "//\nclass A;\n///<summary>B</summary>\nenum B;".toList.map fun c => c.toNat.toUInt8
  rows := #[⟨none, "compilation_unit", 0, 43, true, false, false, ""⟩,
    ⟨some 0, "comment", 0, 2, true, false, false, ""⟩,
    ⟨some 0, "class_declaration", 3, 11, true, false, false, ""⟩,
    ⟨some 0, "comment", 12, 35, true, false, false, ""⟩,
    ⟨some 0, "ERROR", 35, 36, true, false, false, ""⟩,
    ⟨some 0, "enum_declaration", 36, 43, true, false, false, ""⟩]
  hasError := true
  nonempty := by decide
  placed := by decide +kernel

def classAlone : Tree where
  source := "using A;\n\n///<summary>B</summary>\nclass C;".toList.map fun c => c.toNat.toUInt8
  rows := #[⟨none, "compilation_unit", 0, 42, true, false, false, ""⟩,
    ⟨some 0, "using_directive", 0, 8, true, false, false, ""⟩,
    ⟨some 0, "comment", 10, 33, true, false, false, ""⟩,
    ⟨some 0, "ERROR", 33, 34, true, false, false, ""⟩,
    ⟨some 0, "class_declaration", 34, 42, true, false, false, ""⟩]
  hasError := true
  nonempty := by decide
  placed := by decide +kernel

theorem leadingComments_of_classAndEnum :
    (leadingComments classAndEnum Grammar.csharp.layout ⟨5, by decide⟩).map (·.val) = [3] ∧
      (leadingComments classAndEnum Grammar.csharp.layout ⟨2, by decide⟩).Disjoint
        (leadingComments classAndEnum Grammar.csharp.layout ⟨5, by decide⟩) ∧
      attachedSection classAndEnum Grammar.csharp.layout Grammar.csharp.marker .summary
          ⟨5, by decide⟩ =
        attachedSection classAlone Grammar.csharp.layout Grammar.csharp.marker .summary
          ⟨4, by decide⟩ := by
  obtain ⟨-, hcomments, -, hdisjoint, hsection⟩ :=
    leadingComments_of_run classAndEnum Grammar.csharp.layout ⟨5, by decide⟩
  have hrun := isLeadingRun_leadingRun classAndEnum Grammar.csharp.layout ⟨5, by decide⟩
  have hrun' := isLeadingRun_leadingRun classAlone Grammar.csharp.layout ⟨4, by decide⟩
  refine ⟨?_, hdisjoint _ (by decide) ?_ ?_, hsection classAlone _ _ _ hrun hrun' ?_ _ _⟩
  · rw [hcomments _ hrun]
    decide +kernel
  · exact fun htrivia => absurd (isTrivia_iff.mpr htrivia) (by decide +kernel)
  · exact fun htrivia => absurd (isTrivia_iff.mpr htrivia) (by decide +kernel)
  · decide +kernel

end DeclDocs.Extract
