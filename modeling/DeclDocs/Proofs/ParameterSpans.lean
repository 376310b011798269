import DeclDocs.Grammar
import Mathlib.Data.List.Basic

/-!
Where the parameters of a C# method stand in the source. The children of a parameter list are cut at
its commas; what is left of a group without parentheses and comments runs from the start of its
first node to the end of its last. In a list whose children lie in it one behind the other, these
spans come in order and do not overlap, no comma reaches into one, and every other node lies in just
one of them. The text of a parameter is what the source holds there.
-/
namespace DeclDocs

namespace Syntax

structure Span where
  start : Nat
  stop : Nat
  deriving DecidableEq, Repr

namespace Span

def Contains (outer inner : Span) : Prop := outer.start ≤ inner.start ∧ inner.stop ≤ outer.stop

def Apart (a b : Span) : Prop := a.stop ≤ b.start ∨ b.stop ≤ a.start

instance (outer inner : Span) : Decidable (outer.Contains inner) :=
  inferInstanceAs (Decidable (_ ∧ _))

theorem Apart.not_contains {a b : Span} (h : a.Apart b) (hb : b.start < b.stop) :
    ¬ a.Contains b := by
  unfold Apart at h
  unfold Contains
  omega

end Span

namespace Tree

def span (t : Tree) (n : t.Node) : Span := ⟨(t.row n).start, (t.row n).stop⟩

def textIn (t : Tree) (span : Span) : String :=
  String.ofList (Text.Utf8.decode (t.octets span.start span.stop))

def EndsBefore (t : Tree) (a b : t.Node) : Prop := (t.span a).stop ≤ (t.span b).start

instance (t : Tree) (a b : t.Node) : Decidable (t.EndsBefore a b) := Nat.decLe _ _

/-- The children of a node lie in it one behind the other. -/
structure IsLaidOut (t : Tree) (n : t.Node) : Prop where
  ordered : (t.children n).Pairwise t.EndsBefore
  forward : ∀ c ∈ t.children n, (t.span c).start ≤ (t.span c).stop
  inside : ∀ c ∈ t.children n, (t.span n).Contains (t.span c)

theorem boundWithin_of_le {offset base length : Nat} (h : base ≤ offset) :
    boundWithin ((offset : Int) - base) length = min (offset - base) length := by
  rw [boundWithin, if_neg (by omega)]
  congr 1
  omega

theorem take_drop_min {α : Type} (xs : List α) (start stop : Nat) :
    (xs.take (min stop xs.length)).drop (min start xs.length) = (xs.take stop).drop start := by
  rw [← List.take_eq_take_min]
  rcases Nat.le_total start xs.length with h | h
  · rw [Nat.min_eq_left h]
  · have hlength : (xs.take stop).length ≤ xs.length := List.length_take_le' stop xs
    rw [Nat.min_eq_right h, List.drop_eq_nil_of_le hlength,
      List.drop_eq_nil_of_le (Nat.le_trans hlength h)]

/-- A text cut from a node around it is what stands in the source. -/
theorem spanText_eq_textIn {t : Tree} {around first last : t.Node}
    (htext : (t.row around).textless = false)
    (hfirst : (t.span around).start ≤ (t.span first).start)
    (hbase : (t.span around).start ≤ (t.span last).stop)
    (hlast : (t.span last).stop ≤ (t.span around).stop) :
    t.spanText around first last = t.textIn ⟨(t.span first).start, (t.span last).stop⟩ := by
  simp only [span] at hfirst hbase hlast
  simp only [spanText, textIn, nodeOctets?, htext, Bool.false_eq_true, if_false, Option.getD_some,
    boundWithin_of_le hfirst, boundWithin_of_le hbase, take_drop_min, span]
  congr 2
  simp only [octets, List.take_drop, List.drop_drop, List.take_take]
  rw [Nat.add_sub_cancel' hbase, Nat.add_sub_cancel' hfirst, Nat.min_eq_left hlast]

end Tree

end Syntax

namespace Grammar.CSharp

open Syntax

variable (t : Tree)

def isComma (c : t.Node) : Bool := t.kind c == ","

def isPiece (c : t.Node) : Bool := !isOutsideParameters t c && !isComma t c

/-- The children between the commas, without parentheses and comments; groups without nodes are
dropped. -/
def groupsBetween (cs : List t.Node) : List (List t.Node) :=
  ((cs.splitOnP (isComma t)).map (·.filter fun c => !isOutsideParameters t c)).filter (!·.isEmpty)

def groupSpan (group : List t.Node) : Span where
  start := (group.head?.map fun c => (t.span c).start).getD 0
  stop := (group.getLast?.map fun c => (t.span c).stop).getD 0

section Groups

variable {t} {cs group : List t.Node} {c : t.Node}

theorem isComma_of_isOutside (h : isOutsideParameters t c = true) : isComma t c = false := by
  simp only [isOutsideParameters, Tree.isComment, Bool.or_eq_true, beq_iff_eq] at h
  rcases h with (h | h) | h <;> simp [isComma, h]

theorem parameterGroups_cons (group rest : List t.Node) (c : t.Node) :
    parameterGroups t group (c :: rest) =
      if isOutsideParameters t c then parameterGroups t group rest
      else if isComma t c then
        (if group.isEmpty then [] else [group.reverse]) ++ parameterGroups t [] rest
      else parameterGroups t (c :: group) rest := by
  rw [parameterGroups]
  rfl

theorem exists_splitOnP_eq_cons (cs : List t.Node) :
    ∃ first others, cs.splitOnP (isComma t) = first :: others :=
  List.exists_cons_of_ne_nil (List.splitOnP_ne_nil (isComma t) cs)

/-- The open group is closed where the list is cut. -/
theorem parameterGroups_eq {first : List t.Node} {others : List (List t.Node)}
    (h : cs.splitOnP (isComma t) = first :: others) :
    parameterGroups t group cs =
      ((group.reverse ++ first.filter fun c => !isOutsideParameters t c) ::
        others.map (·.filter fun c => !isOutsideParameters t c)).filter (!·.isEmpty) := by
  induction cs generalizing group first others with
  | nil =>
    obtain ⟨rfl, rfl⟩ : [] = first ∧ [] = others := by simpa using h
    cases group <;> simp [parameterGroups]
  | cons c rest ih =>
    obtain ⟨next, later, hrest⟩ := exists_splitOnP_eq_cons rest
    rw [List.splitOnP_cons_eq_if_modifyHead, hrest] at h
    by_cases houtside : isOutsideParameters t c = true
    · simp only [isComma_of_isOutside houtside, Bool.false_eq_true, if_false, List.modifyHead_cons,
        List.cons.injEq] at h
      obtain ⟨rfl, rfl⟩ := h
      simp [parameterGroups_cons, houtside, ih hrest]
    · by_cases hcomma : isComma t c = true
      · simp only [hcomma, if_true, List.cons.injEq] at h
        obtain ⟨rfl, rfl⟩ := h
        rw [parameterGroups_cons, if_neg houtside, if_pos hcomma, ih hrest]
        cases group <;> simp
      · simp only [hcomma, Bool.false_eq_true, if_false, List.modifyHead_cons, List.cons.injEq] at h
        obtain ⟨rfl, rfl⟩ := h
        rw [parameterGroups_cons, if_neg houtside, if_neg hcomma, ih hrest]
        simp [houtside]

theorem parameterGroups_eq_groupsBetween (cs : List t.Node) :
    parameterGroups t [] cs = groupsBetween t cs := by
  obtain ⟨first, others, h⟩ := exists_splitOnP_eq_cons cs
  rw [parameterGroups_eq h, groupsBetween, h]
  rfl

theorem groupsBetween_append_comma (before after : List t.Node) (h : isComma t c = true) :
    groupsBetween t (before ++ c :: after) = groupsBetween t before ++ groupsBetween t after := by
  simp [groupsBetween, List.splitOnP_append_cons before after h]

/-- Nothing but parentheses, commas and comments is left out, and nothing is moved. -/
theorem flatten_groupsBetween (cs : List t.Node) :
    (groupsBetween t cs).flatten = cs.filter (isPiece t) := by
  rw [groupsBetween, List.flatten_filter_not_isEmpty, ← List.filter_flatten]
  induction cs with
  | nil => rfl
  | cons c rest ih =>
    obtain ⟨next, later, hrest⟩ := exists_splitOnP_eq_cons rest
    rw [hrest] at ih
    rw [List.splitOnP_cons_eq_if_modifyHead, hrest]
    by_cases hcomma : isComma t c = true
    · simpa [hcomma, isPiece] using ih
    · cases houtside : isOutsideParameters t c <;> simpa [hcomma, houtside, isPiece] using ih

theorem ne_nil_of_mem_groupsBetween (h : group ∈ groupsBetween t cs) : group ≠ [] := by
  simpa using (List.mem_filter.mp h).2

theorem mem_of_mem_groupsBetween (hgroup : group ∈ groupsBetween t cs) (hc : c ∈ group) :
    c ∈ cs := by
  have hflat : c ∈ (groupsBetween t cs).flatten := List.mem_flatten.mpr ⟨group, hgroup, hc⟩
  rw [flatten_groupsBetween] at hflat
  exact List.mem_of_mem_filter hflat

end Groups

section Spans

variable {t} {cs group other : List t.Node} {c : t.Node}

def Precede (before after : List t.Node) : Prop :=
  ∀ a ∈ before, ∀ b ∈ after, t.EndsBefore a b

theorem groupSpan_eq (h : group ≠ []) :
    groupSpan t group = ⟨(t.span (group.head h)).start, (t.span (group.getLast h)).stop⟩ := by
  simp [groupSpan, List.head?_eq_some_head h, List.getLast?_eq_some_getLast h]

theorem groupSpan_contains (hordered : group.Pairwise t.EndsBefore)
    (hforward : ∀ c ∈ group, (t.span c).start ≤ (t.span c).stop) (hc : c ∈ group) :
    (groupSpan t group).Contains (t.span c) := by
  have hne : group ≠ [] := List.ne_nil_of_mem hc
  rw [groupSpan_eq hne]
  constructor
  · cases group with
    | nil => exact absurd rfl hne
    | cons first rest =>
      rcases List.mem_cons.mp hc with rfl | hrest
      · exact Nat.le_refl _
      · have hfirst := hforward first List.mem_cons_self
        have hlater := (List.pairwise_cons.mp hordered).1 c hrest
        exact Nat.le_trans hfirst hlater
  · obtain ⟨front, last, rfl⟩ := (List.eq_nil_or_concat' group).resolve_left hne
    rcases List.mem_append.mp hc with hfront | hlast
    · have hbefore := (List.pairwise_append.mp hordered).2.2 c hfront last (by simp)
      have hlast := hforward last (by simp)
      simpa using Nat.le_trans hbefore hlast
    · obtain rfl := List.mem_singleton.mp hlast
      simp

theorem Precede.groupSpan_le (h : Precede group other) (hgroup : group ≠ []) (hother : other ≠ []) :
    (groupSpan t group).stop ≤ (groupSpan t other).start := by
  rw [groupSpan_eq hgroup, groupSpan_eq hother]
  exact h _ (List.getLast_mem hgroup) _ (List.head_mem hother)

theorem Precede.apart (h : Precede group [c]) (hgroup : group ≠ []) :
    (groupSpan t group).Apart (t.span c) :=
  Or.inl (h.groupSpan_le hgroup (by simp))

theorem Precede.apart_of_behind (h : Precede [c] group) (hgroup : group ≠ []) :
    (groupSpan t group).Apart (t.span c) :=
  Or.inr (h.groupSpan_le (by simp) hgroup)

/-- The order of the children is that inside the groups and that of the groups. -/
theorem pairwise_groupsBetween (hordered : cs.Pairwise t.EndsBefore) :
    (∀ group ∈ groupsBetween t cs, group.Pairwise t.EndsBefore) ∧
      (groupsBetween t cs).Pairwise Precede := by
  have hpieces := hordered.filter (isPiece t)
  rw [← flatten_groupsBetween] at hpieces
  exact List.pairwise_flatten.mp hpieces

/-- A comma stands behind the groups before it and before the groups behind it. -/
theorem apart_of_isComma (hordered : cs.Pairwise t.EndsBefore)
    (hc : c ∈ cs) (hcomma : isComma t c = true) (hgroup : group ∈ groupsBetween t cs) :
    (groupSpan t group).Apart (t.span c) := by
  have hne := ne_nil_of_mem_groupsBetween hgroup
  obtain ⟨before, after, rfl⟩ := List.append_of_mem hc
  obtain ⟨-, hafter, hbefore⟩ := List.pairwise_append.mp hordered
  rw [groupsBetween_append_comma before after hcomma, List.mem_append] at hgroup
  rcases hgroup with hgroup | hgroup
  · refine Precede.apart ?_ hne
    intro a ha b hb
    obtain rfl := List.mem_singleton.mp hb
    exact hbefore a (mem_of_mem_groupsBetween hgroup ha) b List.mem_cons_self
  · refine Precede.apart_of_behind ?_ hne
    intro a ha b hb
    obtain rfl := List.mem_singleton.mp ha
    exact (List.pairwise_cons.mp hafter).1 b (mem_of_mem_groupsBetween hgroup hb)

/-- A node lies in the span of its own group and apart from those of all others. -/
theorem exists_group_of_isPiece (hordered : cs.Pairwise t.EndsBefore)
    (hforward : ∀ c ∈ cs, (t.span c).start ≤ (t.span c).stop) (hc : c ∈ cs)
    (hpiece : isPiece t c = true) :
    ∃ before group after, groupsBetween t cs = before ++ group :: after ∧
      (groupSpan t group).Contains (t.span c) ∧
      ∀ other ∈ before ++ after, (groupSpan t other).Apart (t.span c) := by
  have hflat : c ∈ (groupsBetween t cs).flatten := by
    rw [flatten_groupsBetween]
    exact List.mem_filter.mpr ⟨hc, hpiece⟩
  obtain ⟨group, hgroup, hmem⟩ := List.mem_flatten.mp hflat
  obtain ⟨before, after, hgroups⟩ := List.append_of_mem hgroup
  refine ⟨before, group, after, hgroups, ?_, ?_⟩
  · exact groupSpan_contains ((pairwise_groupsBetween hordered).1 group hgroup)
      (fun a ha => hforward a (mem_of_mem_groupsBetween hgroup ha)) hmem
  · have hpairs := (pairwise_groupsBetween hordered).2
    rw [hgroups] at hpairs
    obtain ⟨-, hbehind, hbefore⟩ := List.pairwise_append.mp hpairs
    intro other hother
    have hne : other ≠ [] := by
      refine ne_nil_of_mem_groupsBetween (hgroups ▸ ?_ : other ∈ groupsBetween t cs)
      simp only [List.mem_append, List.mem_cons] at hother ⊢
      tauto
    rcases List.mem_append.mp hother with hmember | hmember
    · refine Precede.apart (fun a ha b hb => ?_) hne
      obtain rfl := List.mem_singleton.mp hb
      exact hbefore other hmember group List.mem_cons_self a ha b hmem
    · refine Precede.apart_of_behind (fun a ha b hb => ?_) hne
      obtain rfl := List.mem_singleton.mp ha
      exact (List.pairwise_cons.mp hbehind).1 other hmember a hmem b hb

end Spans

section Lists

variable {t} {list : t.Node}

theorem groupSpan_inside (hlaid : t.IsLaidOut list) {group : List t.Node}
    (hgroup : group ∈ groupsBetween t (t.children list)) :
    (groupSpan t group).start ≤ (groupSpan t group).stop ∧
      (t.span list).Contains (groupSpan t group) := by
  have hne := ne_nil_of_mem_groupsBetween hgroup
  have hmem : ∀ c ∈ group, c ∈ t.children list := fun c hc => mem_of_mem_groupsBetween hgroup hc
  have hfirst := hlaid.inside _ (hmem _ (List.head_mem hne))
  have hlast := hlaid.inside _ (hmem _ (List.getLast_mem hne))
  have hcontains := groupSpan_contains ((pairwise_groupsBetween hlaid.ordered).1 group hgroup)
    (fun a ha => hlaid.forward a (hmem a ha)) (List.head_mem hne)
  have hforward := hlaid.forward _ (hmem _ (List.head_mem hne))
  refine ⟨Nat.le_trans hcontains.1 (Nat.le_trans hforward hcontains.2), ?_⟩
  rw [groupSpan_eq hne]
  exact ⟨hfirst.1, hlast.2⟩

theorem groupText_eq (htext : (t.row list).textless = false) (hlaid : t.IsLaidOut list)
    {group : List t.Node} (hgroup : group ∈ groupsBetween t (t.children list)) :
    groupText t list group = some (t.textIn (groupSpan t group)) := by
  have hne := ne_nil_of_mem_groupsBetween hgroup
  obtain ⟨hforward, hfirst, hlast⟩ := groupSpan_inside hlaid hgroup
  rw [groupSpan_eq hne] at hforward hfirst hlast ⊢
  rw [groupText, List.head?_eq_some_head hne, List.getLast?_eq_some_getLast hne]
  exact congrArg some
    (Tree.spanText_eq_textIn htext hfirst (Nat.le_trans hfirst hforward) hlast)

end Lists

/-- The parameters of a method are what the source holds from the first to the last node of each
group. The spans of the groups come one behind the other, no comma reaches into one, and every node
that is no parenthesis, comma or comment lies in just one. -/
theorem parameters_in_spans {t : Tree} {n list : t.Node}
    (hlist : t.childByField? n "parameters" = some list)
    (htext : (t.row list).textless = false) (hlaid : t.IsLaidOut list) :
    let children := t.children list
    let groups := groupsBetween t children
    let spans := groups.map (groupSpan t)
    Grammar.csharp.parameters t n = spans.map (fun span => some (t.textIn span)) ∧
    groups.flatten = children.filter (isPiece t) ∧
    (∀ span ∈ spans, span.start ≤ span.stop ∧ (t.span list).Contains span) ∧
    spans.Pairwise (fun a b => a.stop ≤ b.start) ∧
    (∀ c ∈ children, isComma t c = true → ∀ span ∈ spans, span.Apart (t.span c) ∧
      ((t.span c).start < (t.span c).stop → ¬ span.Contains (t.span c))) ∧
    ∀ c ∈ children, isPiece t c = true → ∃ before span after, spans = before ++ span :: after ∧
      span.Contains (t.span c) ∧ ∀ other ∈ before ++ after, other.Apart (t.span c) ∧
        ((t.span c).start < (t.span c).stop → ¬ other.Contains (t.span c)) := by
  intro children groups spans
  refine ⟨?_, flatten_groupsBetween children, ?_, ?_, ?_, ?_⟩
  · have hparameters : Grammar.csharp.parameters t n = groups.map (groupText t list) := by
      simp only [Grammar.parameters, parameters, hlist, parameterGroups_eq_groupsBetween]
      rfl
    rw [hparameters, List.map_map]
    exact List.map_congr_left fun group hgroup => groupText_eq htext hlaid hgroup
  · intro span hspan
    obtain ⟨group, hgroup, rfl⟩ := List.mem_map.mp hspan
    exact groupSpan_inside hlaid hgroup
  · refine List.pairwise_map.mpr ((pairwise_groupsBetween hlaid.ordered).2.imp_of_mem ?_)
    intro a b ha hb hprecede
    exact hprecede.groupSpan_le (ne_nil_of_mem_groupsBetween ha) (ne_nil_of_mem_groupsBetween hb)
  · intro c hc hcomma span hspan
    obtain ⟨group, hgroup, rfl⟩ := List.mem_map.mp hspan
    have hapart := apart_of_isComma hlaid.ordered hc hcomma hgroup
    exact ⟨hapart, hapart.not_contains⟩
  · intro c hc hpiece
    obtain ⟨before, group, after, hgroups, hcontains, hapart⟩ :=
      exists_group_of_isPiece hlaid.ordered hlaid.forward hc hpiece
    refine ⟨before.map (groupSpan t), groupSpan t group, after.map (groupSpan t), ?_, hcontains, ?_⟩
    · rw [← List.map_cons, ← List.map_append, ← hgroups]
    · rw [← List.map_append]
      intro span hspan
      obtain ⟨other, hother, rfl⟩ := List.mem_map.mp hspan
      exact ⟨hapart other hother, (hapart other hother).not_contains⟩

def looseList : Tree where
  source := "f(/**/a b,,c)".toList.map fun c => c.toNat.toUInt8
  rows := #[⟨none, "method_declaration", 0, 13, true, false, false, ""⟩,
    ⟨some 0, "parameter_list", 1, 13, true, false, false, "parameters"⟩,
    ⟨some 1, "(", 1, 2, false, false, false, ""⟩,
    ⟨some 1, "comment", 2, 6, true, false, false, ""⟩,
    ⟨some 1, "identifier", 6, 7, true, false, false, ""⟩,
    ⟨some 1, "ERROR", 8, 9, true, false, false, ""⟩,
    ⟨some 1, ",", 9, 10, false, false, false, ""⟩,
    ⟨some 1, ",", 10, 11, false, false, false, ""⟩,
    ⟨some 1, "parameter", 11, 12, true, false, false, ""⟩,
    ⟨some 1, ")", 12, 13, false, false, false, ""⟩]
  hasError := true
  nonempty := by decide
  placed := by decide +kernel

theorem parameters_of_looseList :
    looseList.IsLaidOut ⟨1, by decide⟩ ∧
    Grammar.csharp.parameters looseList ⟨0, by decide⟩ = [some "a b", some "c"] ∧
    ∀ span ∈ [(⟨6, 9⟩ : Span), ⟨11, 12⟩], span.Apart ⟨9, 10⟩ := by
  have hlaid : looseList.IsLaidOut ⟨1, by decide⟩ :=
    ⟨by decide +kernel, by decide +kernel, by decide +kernel⟩
  obtain ⟨htexts, -, -, -, hcommas, -⟩ := parameters_in_spans
    (n := ⟨0, by decide⟩) (by decide +kernel) (by decide +kernel) hlaid
  have hspans : (groupsBetween looseList (looseList.children ⟨1, by decide⟩)).map
      (groupSpan looseList) = [⟨6, 9⟩, ⟨11, 12⟩] := by decide +kernel
  rw [hspans] at htexts hcommas
  refine ⟨hlaid, htexts.trans (by decide +kernel), fun span hspan => ?_⟩
  exact (hcommas ⟨6, by decide⟩ (by decide +kernel) (by decide +kernel) span hspan).1

end Grammar.CSharp

end DeclDocs
