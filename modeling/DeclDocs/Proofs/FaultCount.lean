import DeclDocs.Syntax.Tree
import Mathlib.Data.List.Nodup

/-!
Every row of a tree is looked at once when its faults are counted. Two subtrees with a common node
lie in each other, since a node has one parent only, so the subtrees of the children of a node are
disjoint; and every row lies below the first. Hence the nodes below the root are the rows in some
order. Looking at the top of the stack takes one node off those that are pending, so the loop ends,
and what it has looked at by then are all nodes below the root.
-/
namespace DeclDocs.Syntax

def Row.isFault (row : Row) : Bool := row.kind == "ERROR" || row.missing

namespace Tree

variable {t : Tree} {n m c : t.Node}

/-- What a node has if its children have it holds of every node, since children stand behind their
parent. -/
theorem children_induction {P : t.Node → Prop} (h : ∀ n, (∀ c ∈ t.children n, P c) → P n)
    (n : t.Node) : P n := by
  induction hrows : t.rows.size - n.val using Nat.strongRecOn generalizing n with
  | ind rows ih =>
    apply h
    intro c hc
    have hlt := lt_of_mem_children hc
    exact ih _ (by omega) c rfl

section Subtrees

theorem eq_of_mem_children {p : t.Node} (hn : c ∈ t.children n) (hp : c ∈ t.children p) :
    n = p := by
  rw [mem_children] at hn hp
  exact Fin.ext (Option.some.inj (hn.symm.trans hp))

theorem nodup_children (n : t.Node) : (t.children n).Nodup := (List.nodup_finRange _).filter _

theorem mem_subtree_iff : m ∈ t.subtree n ↔ m = n ∨ ∃ c ∈ t.children n, m ∈ t.subtree c := by
  rw [subtree_eq, List.mem_cons, List.mem_flatMap]

theorem mem_subtree_self (n : t.Node) : n ∈ t.subtree n := mem_subtree_iff.mpr (.inl rfl)

theorem le_of_mem_subtree (h : m ∈ t.subtree n) : n.val ≤ m.val := by
  induction n using children_induction with
  | h n ih =>
    rcases mem_subtree_iff.mp h with rfl | ⟨c, hc, hm⟩
    · exact Nat.le_refl _
    · have hlt := lt_of_mem_children hc
      have hle := ih c hc hm
      omega

/-- A subtree is closed under children. -/
theorem mem_subtree_of_child (hm : m ∈ t.subtree n) (hc : c ∈ t.children m) :
    c ∈ t.subtree n := by
  induction n using children_induction with
  | h n ih =>
    rcases mem_subtree_iff.mp hm with rfl | ⟨d, hd, hmd⟩
    · exact mem_subtree_iff.mpr (.inr ⟨c, hc, mem_subtree_self c⟩)
    · exact mem_subtree_iff.mpr (.inr ⟨d, hd, ih d hd hmd⟩)

/-- Any node of a subtree but its root has its parent there. -/
theorem exists_parent_of_mem_subtree (hm : m ∈ t.subtree n) (hne : m ≠ n) :
    ∃ p ∈ t.subtree n, m ∈ t.children p := by
  induction n using children_induction with
  | h n ih =>
    obtain ⟨c, hc, hmc⟩ := (mem_subtree_iff.mp hm).resolve_left hne
    by_cases heq : m = c
    · exact ⟨n, mem_subtree_self n, heq ▸ hc⟩
    · obtain ⟨p, hp, hmp⟩ := ih c hc hmc heq
      exact ⟨p, mem_subtree_iff.mpr (.inr ⟨c, hc, hp⟩), hmp⟩

/-- Of two subtrees with a common node one lies in the other. -/
theorem mem_subtree_or_mem_subtree {a b : t.Node} (ha : m ∈ t.subtree a) (hb : m ∈ t.subtree b) :
    a ∈ t.subtree b ∨ b ∈ t.subtree a := by
  induction hm : m.val using Nat.strongRecOn generalizing m with
  | ind index ih =>
    by_cases hma : m = a
    · exact .inl (hma ▸ hb)
    · by_cases hmb : m = b
      · exact .inr (hmb ▸ ha)
      · -- the parent of the common node is common too
        obtain ⟨p, hpa, hp⟩ := exists_parent_of_mem_subtree ha hma
        obtain ⟨q, hqb, hq⟩ := exists_parent_of_mem_subtree hb hmb
        obtain rfl := eq_of_mem_children hp hq
        have hlt := lt_of_mem_children hp
        exact ih p.val (by omega) hpa hqb rfl

/-- No child of a node lies below another one. -/
theorem not_mem_subtree_of_sibling {a b : t.Node} (ha : a ∈ t.children n) (hb : b ∈ t.children n)
    (hne : a ≠ b) : a ∉ t.subtree b := by
  intro hmem
  obtain ⟨p, hp, hap⟩ := exists_parent_of_mem_subtree hmem hne
  obtain rfl := eq_of_mem_children ha hap
  have hle := le_of_mem_subtree hp
  have hlt := lt_of_mem_children hb
  omega

theorem disjoint_subtree_of_sibling {a b : t.Node} (ha : a ∈ t.children n) (hb : b ∈ t.children n)
    (hne : a ≠ b) : (t.subtree a).Disjoint (t.subtree b) := by
  intro m hma hmb
  rcases mem_subtree_or_mem_subtree hma hmb with hab | hba
  · exact not_mem_subtree_of_sibling ha hb hne hab
  · exact not_mem_subtree_of_sibling hb ha (Ne.symm hne) hba

theorem nodup_subtree (n : t.Node) : (t.subtree n).Nodup := by
  induction n using children_induction with
  | h n ih =>
    rw [subtree_eq, List.nodup_cons, List.mem_flatMap, List.nodup_flatMap]
    refine ⟨?_, ih, ?_⟩
    · rintro ⟨c, hc, hmem⟩
      have hlt := lt_of_mem_children hc
      have hle := le_of_mem_subtree hmem
      omega
    · exact (nodup_children n).imp_of_mem fun ha hb hne => disjoint_subtree_of_sibling ha hb hne

/-- Every node lies below the root. -/
theorem mem_subtree_root (n : t.Node) : n ∈ t.subtree t.root := by
  induction hn : n.val using Nat.strongRecOn generalizing n with
  | ind index ih =>
    have hplaced : (t.row n).isPlaced n.val = true := t.placed n
    cases hparent : (t.row n).parent with
    | none =>
      rw [Row.isPlaced, hparent] at hplaced
      obtain rfl : n = t.root := Fin.ext (by simpa [root] using hplaced)
      exact mem_subtree_self t.root
    | some p =>
      rw [Row.isPlaced, hparent] at hplaced
      have hlt : p < n.val := by simpa using hplaced
      have hbelow := ih p (by omega) ⟨p, by omega⟩ rfl
      exact mem_subtree_of_child hbelow (mem_children.mpr hparent)

/-- The nodes below the root are all nodes, each of them once. -/
theorem subtree_root_perm (t : Tree) : (t.subtree t.root).Perm (List.finRange t.rows.size) := by
  rw [List.perm_ext_iff_of_nodup (nodup_subtree t.root) (List.nodup_finRange _)]
  intro n
  simp [mem_subtree_root n]

end Subtrees

section Looking

variable {stack order : List t.Node}

/-- The nodes that the loop looks at, from a stack on and in order, until nothing is left on the
stack. -/
inductive LooksAt (t : Tree) : List t.Node → List t.Node → Prop where
  | done : LooksAt t [] []
  | next {n : t.Node} {rest later : List t.Node} :
      LooksAt t ((t.children n).reverse ++ rest) later → LooksAt t (n :: rest) (n :: later)

/-- The loop ends from every stack. -/
theorem exists_looksAt (t : Tree) (stack : List t.Node) : ∃ order, LooksAt t stack order := by
  induction hpending : (t.pending stack).length using Nat.strongRecOn generalizing stack with
  | ind length ih =>
    cases stack with
    | nil => exact ⟨[], .done⟩
    | cons n rest =>
      have hfewer := (t.pending_perm n rest).length_eq
      rw [List.length_cons] at hfewer
      obtain ⟨later, hlater⟩ := ih _ (by omega) ((t.children n).reverse ++ rest) rfl
      exact ⟨n :: later, .next hlater⟩

/-- It looks at the nodes that are pending, in some order. -/
theorem LooksAt.perm (h : LooksAt t stack order) : order.Perm (t.pending stack) := by
  induction h with
  | done => exact List.Perm.refl []
  | @next n rest later _ ih => exact (ih.cons n).trans (t.pending_perm n rest).symm

theorem LooksAt.countFaults_eq (h : LooksAt t stack order) (count : Nat) :
    t.countFaults count stack = count + order.countP t.isFault := by
  induction h generalizing count with
  | done => simp [countFaults]
  | @next n rest later _ ih =>
    rw [countFaults, ih, List.countP_cons]
    split <;> omega

end Looking

/-- The faults among the nodes are those among the rows. -/
theorem countP_isFault_nodes (t : Tree) :
    (List.finRange t.rows.size).countP t.isFault = t.rows.toList.countP Row.isFault := by
  have hrows : (List.finRange t.rows.size).map t.row = t.rows.toList := by
    apply List.ext_getElem
    · simp
    · intro i hi hi'
      simp [row]
  rw [← hrows, List.countP_map]
  rfl

/-- Rows in which each parent stands before its children make a tree. The loop that counts its
faults ends, having looked at every row once, and counts the rows that record a fault. -/
theorem faultCount_of_rows (source : List UInt8) (rows : Array Row) (hasError : Bool)
    (hne : 0 < rows.size) (hplaced : ∀ i (hi : i < rows.size), rows[i].isPlaced i = true) :
    ∃ t, ofRows? source rows hasError = some t ∧ t.rows = rows ∧
      (∃ order, LooksAt t [t.root] order ∧ order.Perm (List.finRange t.rows.size)) ∧
      t.faultCount = rows.toList.countP Row.isFault := by
  have hnodes : ∀ n : Fin rows.size, rows[n].isPlaced n = true := fun n => hplaced n.val n.isLt
  refine ⟨⟨source, rows, hasError, hne, hnodes⟩, dif_pos ⟨hne, hnodes⟩, rfl, ?_⟩
  generalize htree : (⟨source, rows, hasError, hne, hnodes⟩ : Tree) = t
  obtain rfl : t.rows = rows := htree ▸ rfl
  obtain ⟨order, horder⟩ := exists_looksAt t [t.root]
  have hperm : order.Perm (List.finRange t.rows.size) := by
    have hpending := horder.perm
    rw [pending, List.flatMap_singleton] at hpending
    exact hpending.trans (subtree_root_perm t)
  refine ⟨⟨order, horder, hperm⟩, ?_⟩
  rw [faultCount, horder.countFaults_eq, Nat.zero_add, hperm.countP_eq, countP_isFault_nodes]

def nestedFaults : Array Row :=
  #[⟨none, "compilation_unit", 0, 3, true, false, false, ""⟩,
    ⟨some 0, "ERROR", 0, 2, true, false, false, ""⟩,
    ⟨some 1, "ERROR", 0, 0, true, true, false, ""⟩,
    ⟨some 1, "identifier", 0, 2, true, false, false, ""⟩,
    ⟨some 0, ";", 3, 3, false, true, false, ""⟩]

theorem faultCount_of_nestedFaults :
    ∃ t, ofRows? [] nestedFaults true = some t ∧ t.rows = nestedFaults ∧
      (∃ order, LooksAt t [t.root] order ∧ order.Perm (List.finRange t.rows.size)) ∧
      t.faultCount = 3 := by
  obtain ⟨t, htree, hrows, hlooks, hcount⟩ :=
    faultCount_of_rows [] nestedFaults true (by decide) (by decide)
  exact ⟨t, htree, hrows, hlooks, hcount.trans (by decide)⟩

end Tree
end DeclDocs.Syntax
