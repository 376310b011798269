import DeclDocs.Text.Blank
import DeclDocs.Text.Split

/-!
Laws of the elementary operations on texts: cutting at a separator undoes joining with it, taking a
start off a text undoes putting it in front, and trimming takes away blanks at the ends and leaves
what starts and ends with ink.
-/
namespace DeclDocs.Text

section Cutting

variable {α : Type} [DecidableEq α]

theorem splitOn_eq (sep : α) (text : List α) : splitOn sep text = text.splitOn sep := by
  induction text with
  | nil => rfl
  | cons c rest ih =>
    rw [splitOn, List.splitOn_cons_eq_if_modifyHead, ih]
    by_cases hc : c = sep
    · simp [hc]
    · cases hparts : rest.splitOn sep with
      | nil => exact absurd hparts (List.splitOn_ne_nil sep rest)
      | cons part parts => simp [hc]

theorem splitOn_intercalate {sep : α} {parts : List (List α)} (hfree : ∀ part ∈ parts, sep ∉ part)
    (hne : parts ≠ []) : splitOn sep ([sep].intercalate parts) = parts := by
  rw [splitOn_eq]
  exact List.splitOn_intercalate sep hfree hne

theorem splitOn_append (sep : α) (left right : List α) :
    splitOn sep (left ++ sep :: right) = splitOn sep left ++ splitOn sep right := by
  simp only [splitOn_eq, List.splitOn]
  exact List.splitOnP_append_cons left right (by simp)

theorem splitOn_of_not_mem {sep : α} {text : List α} (h : sep ∉ text) :
    splitOn sep text = [text] := by
  rw [splitOn_eq]
  exact List.splitOn_eq_singleton h

theorem length_splitOn (sep : α) (text : List α) :
    (splitOn sep text).length = text.count sep + 1 := by
  induction text with
  | nil => rfl
  | cons c rest ih =>
    unfold splitOn
    by_cases hc : c = sep
    · simp [hc, ih]
    · cases hparts : splitOn sep rest with
      | nil => exact absurd hparts (splitOn_ne_nil sep rest)
      | cons part parts =>
        rw [hparts] at ih
        simpa [hc] using ih

theorem not_mem_of_mem_splitOn {sep : α} {text part : List α} (h : part ∈ splitOn sep text) :
    sep ∉ part := by
  induction text generalizing part with
  | nil =>
    obtain rfl : part = [] := by simpa [splitOn] using h
    simp
  | cons c rest ih =>
    unfold splitOn at h
    split at h
    · rcases List.mem_cons.mp h with rfl | hlater
      · simp
      · exact ih hlater
    · rename_i hc
      split at h
      · rename_i hnil
        exact absurd hnil (splitOn_ne_nil sep rest)
      · rename_i first parts hparts
        rcases List.mem_cons.mp h with rfl | hlater
        · have hfirst : sep ∉ first := ih (hparts ▸ List.mem_cons_self)
          simp [hfirst, Ne.symm hc]
        · exact ih (hparts ▸ List.mem_cons_of_mem first hlater)

omit [DecidableEq α] in
theorem intercalate_append (sep : List α) {left right : List (List α)} (hleft : left ≠ [])
    (hright : right ≠ []) :
    sep.intercalate (left ++ right) = sep.intercalate left ++ sep ++ sep.intercalate right := by
  induction left with
  | nil => exact absurd rfl hleft
  | cons part left ih =>
    cases left with
    | nil => simp [List.intercalate_cons_of_ne_nil hright]
    | cons next left =>
      rw [List.cons_append, List.intercalate_cons_of_ne_nil (by simp), ih (by simp),
        List.intercalate_cons_cons]
      simp only [List.append_assoc]

theorem dropStart?_eq_some_iff {start text rest : List α} :
    dropStart? start text = some rest ↔ text = start ++ rest := by
  induction start generalizing text with
  | nil => simp [dropStart?]
  | cons s start ih =>
    cases text with
    | nil => simp [dropStart?]
    | cons c text =>
      rw [dropStart?]
      by_cases hc : s = c
      · simp [hc, ih]
      · simp [hc, Ne.symm hc]

@[simp] theorem dropStart?_append (start rest : List α) :
    dropStart? start (start ++ rest) = some rest :=
  dropStart?_eq_some_iff.mpr rfl

end Cutting

section Parts

variable {α : Type} {a : α} {part left right : List α}

/-- What starts with an element that the left part lacks lies in the right part. -/
theorem infix_of_head (h : (a :: part) <:+: left ++ right) (ha : a ∉ left) :
    (a :: part) <:+: right := by
  rcases List.infix_append_iff_ne_nil.mp h with hleft | hright | ⟨u, v, hu, -, heq, hsuffix, -⟩
  · exact absurd (hleft.subset List.mem_cons_self) ha
  · exact hright
  · obtain ⟨b, u, rfl⟩ := List.exists_cons_of_ne_nil hu
    obtain ⟨rfl, -⟩ := List.cons.inj heq
    exact absurd (hsuffix.subset List.mem_cons_self) ha

/-- What lacks the separator lies on one side of it. -/
theorem infix_of_separator (h : part <:+: left ++ a :: right) (ha : a ∉ part) :
    part <:+: left ∨ part <:+: right := by
  rcases List.infix_append_iff_ne_nil.mp h with hleft | hright | ⟨u, v, -, hv, rfl, -, hprefix⟩
  · exact Or.inl hleft
  · rcases List.infix_cons_iff.mp hright with hhead | htail
    · cases part with
      | nil => exact Or.inl List.nil_infix
      | cons b part =>
        obtain ⟨rfl, -⟩ := List.cons_prefix_cons.mp hhead
        exact absurd List.mem_cons_self ha
    · exact Or.inr htail
  · obtain ⟨b, v, rfl⟩ := List.exists_cons_of_ne_nil hv
    obtain ⟨rfl, -⟩ := List.cons_prefix_cons.mp hprefix
    exact absurd (List.mem_append_right u List.mem_cons_self) ha

/-- A part of the joined parts that starts in one of them and goes on behind it. -/
def Spans (sep : List α) (parts : List (List α)) (part : List α) : Prop :=
  ∃ before after u v, parts = before ++ after ∧ after ≠ [] ∧ u ≠ [] ∧ v ≠ [] ∧ part = u ++ v ∧
    u <:+ sep.intercalate before ∧ v <+: sep ++ sep.intercalate after

theorem infix_intercalate_of_mem (sep : List α) {parts : List (List α)} (h : part ∈ parts) :
    part <:+: sep.intercalate parts := by
  induction parts with
  | nil => simp at h
  | cons first parts ih =>
    cases parts with
    | nil => exact ⟨[], [], by simp [List.mem_singleton.mp h]⟩
    | cons next parts =>
      rw [List.intercalate_cons_cons, List.append_assoc]
      rcases List.mem_cons.mp h with rfl | hlater
      · exact (List.prefix_append _ _).isInfix
      · exact (ih hlater).trans ((List.suffix_append _ _).trans (List.suffix_append _ _)).isInfix

theorem Spans.isInfix {sep : List α} {parts : List (List α)} (h : Spans sep parts part) :
    part <:+: sep.intercalate parts := by
  obtain ⟨before, after, u, v, rfl, hafter, hu, -, rfl, hsuffix, hprefix⟩ := h
  have hbefore : before ≠ [] := by
    rintro rfl
    exact hu (List.suffix_nil.mp hsuffix)
  obtain ⟨left, hleft⟩ := hsuffix
  obtain ⟨right, hright⟩ := hprefix
  refine ⟨left, right, ?_⟩
  calc left ++ (u ++ v) ++ right = (left ++ u) ++ (v ++ right) := by simp only [List.append_assoc]
    _ = sep.intercalate before ++ (sep ++ sep.intercalate after) := by rw [hleft, hright]
    _ = sep.intercalate (before ++ after) := by
        rw [intercalate_append sep hbefore hafter, List.append_assoc]

/-- What does not start in a separator lies in one of the joined parts or spans several. -/
theorem infix_intercalate_iff {sep : List α} {parts : List (List α)} (ha : a ∉ sep) :
    (a :: part) <:+: sep.intercalate parts ↔
      (∃ p ∈ parts, (a :: part) <:+: p) ∨ Spans sep parts (a :: part) := by
  constructor
  · intro h
    induction parts with
    | nil => simp at h
    | cons first parts ih =>
      cases parts with
      | nil =>
        rw [List.intercalate_singleton] at h
        exact Or.inl ⟨first, List.mem_singleton_self first, h⟩
      | cons next parts =>
        rw [List.intercalate_cons_cons, List.append_assoc] at h
        rcases List.infix_append_iff_ne_nil.mp h with hfirst | hlater | ⟨u, v, hu, hv, heq, hus, hvp⟩
        · exact Or.inl ⟨first, List.mem_cons_self, hfirst⟩
        · rcases ih (infix_of_head hlater ha) with ⟨p, hp, hin⟩ |
            ⟨before, after, u, v, hparts, hafter, hu, hv, heq, hus, hvp⟩
          · exact Or.inl ⟨p, List.mem_cons_of_mem first hp, hin⟩
          · refine Or.inr ⟨first :: before, after, u, v, by rw [hparts]; rfl, hafter, hu, hv, heq,
              ?_, hvp⟩
            have hbefore : before ≠ [] := by
              rintro rfl
              exact hu (List.suffix_nil.mp hus)
            rw [List.intercalate_cons_of_ne_nil hbefore]
            exact hus.trans (List.suffix_append _ _)
        · refine Or.inr ⟨[first], next :: parts, u, v, rfl, by simp, hu, hv, heq, ?_, hvp⟩
          rwa [List.intercalate_singleton]
  · rintro (⟨p, hp, hin⟩ | hspans)
    · exact hin.trans (infix_intercalate_of_mem sep hp)
    · exact hspans.isInfix

theorem mem_or_mem_of_mem_intercalate {sep : List α} {parts : List (List α)}
    (h : a ∈ sep.intercalate parts) : a ∈ sep ∨ ∃ p ∈ parts, a ∈ p := by
  induction parts with
  | nil => simp at h
  | cons first parts ih =>
    cases parts with
    | nil => exact Or.inr ⟨first, List.mem_cons_self, by simpa using h⟩
    | cons next parts =>
      rw [List.intercalate_cons_cons, List.mem_append, List.mem_append] at h
      rcases h with (hfirst | hsep) | hlater
      · exact Or.inr ⟨first, List.mem_cons_self, hfirst⟩
      · exact Or.inl hsep
      · rcases ih hlater with hsep | ⟨p, hp, ha⟩
        · exact Or.inl hsep
        · exact Or.inr ⟨p, List.mem_cons_of_mem first hp, ha⟩

theorem intercalate_nil (parts : List (List α)) : [].intercalate parts = parts.flatten := by
  induction parts with
  | nil => rfl
  | cons first parts ih =>
    cases parts with
    | nil => simp
    | cons next parts => rw [List.intercalate_cons_cons, ih]; simp

end Parts

def StartsInk (text : List Char) : Prop := ∃ c rest, text = c :: rest ∧ isBlank c = false

def EndsInk (text : List Char) : Prop := ∃ rest c, text = rest ++ [c] ∧ isBlank c = false

variable {text left right : List Char}

theorem StartsInk.append (h : StartsInk text) (right : List Char) : StartsInk (text ++ right) := by
  obtain ⟨c, rest, rfl, hc⟩ := h
  exact ⟨c, rest ++ right, rfl, hc⟩

theorem EndsInk.append (h : EndsInk text) (left : List Char) : EndsInk (left ++ text) := by
  obtain ⟨rest, c, rfl, hc⟩ := h
  exact ⟨left ++ rest, c, (List.append_assoc left rest [c]).symm, hc⟩

theorem trimStart_append (h : StartsInk text) (left : List Char) :
    trimStart (left ++ text) = trimStart left ++ text := by
  obtain ⟨c, rest, rfl, hc⟩ := h
  induction left with
  | nil => simp [trimStart, hc]
  | cons d left ih =>
    simp only [trimStart, List.cons_append, List.dropWhile_cons] at ih ⊢
    split
    · exact ih
    · rfl

theorem trimEnd_append (h : EndsInk text) (right : List Char) :
    trimEnd (text ++ right) = text ++ trimEnd right := by
  obtain ⟨rest, c, rfl, hc⟩ := h
  have hstart : StartsInk (rest ++ [c]).reverse := ⟨c, rest.reverse, by simp, hc⟩
  have hmirror := trimStart_append hstart right.reverse
  rw [trimStart, trimStart] at hmirror
  rw [trimEnd, List.reverse_append, hmirror, List.reverse_append, List.reverse_reverse, trimEnd]

/-- Trimming takes blanks off the ends and stops at ink. -/
theorem trim_append_append (hstart : StartsInk text) (hend : EndsInk text)
    (left right : List Char) :
    trim (left ++ text ++ right) = trimStart left ++ text ++ trimEnd right := by
  rw [trim, List.append_assoc, trimStart_append (hstart.append right), ← List.append_assoc,
    trimEnd_append (hend.append _)]

theorem trim_eq_self (hstart : StartsInk text) (hend : EndsInk text) : trim text = text := by
  simpa [trimStart, trimEnd] using trim_append_append hstart hend [] []

theorem startsInk_of_trimStart {text : List Char} (hne : trimStart text ≠ []) :
    StartsInk (trimStart text) := by
  obtain ⟨c, rest, hcons⟩ := List.exists_cons_of_ne_nil hne
  have hhead := List.head_dropWhile_not isBlank hne
  refine ⟨c, rest, hcons, ?_⟩
  have hc : (trimStart text).head hne = c := by simp [hcons]
  rw [← hc]
  exact hhead

theorem endsInk_of_trimEnd {text : List Char} (hne : trimEnd text ≠ []) :
    EndsInk (trimEnd text) := by
  have hne' : trimStart text.reverse ≠ [] := by simpa [trimEnd, trimStart] using hne
  obtain ⟨c, rest, hcons, hc⟩ := startsInk_of_trimStart hne'
  refine ⟨rest.reverse, c, ?_, hc⟩
  rw [trimStart] at hcons
  rw [trimEnd, hcons, List.reverse_cons]

/-- A trimmed text is empty or starts and ends with ink. -/
theorem ink_of_trim (hne : trim text ≠ []) : StartsInk (trim text) ∧ EndsInk (trim text) := by
  have hend : EndsInk (trim text) := endsInk_of_trimEnd hne
  refine ⟨?_, hend⟩
  have hne' : trimStart text ≠ [] := by
    intro hnil
    exact hne (by rw [trim, hnil]; rfl)
  obtain ⟨c, rest, hcons, hc⟩ := startsInk_of_trimStart hne'
  have hfirst : trimEnd ([c] ++ rest) = [c] ++ trimEnd rest :=
    trimEnd_append ⟨[], c, rfl, hc⟩ rest
  rw [trim, hcons]
  exact ⟨c, trimEnd rest, hfirst, hc⟩

/-- Texts that start and end with ink do so when they are joined. -/
theorem ink_intercalate (sep : List Char) {parts : List (List Char)} (hne : parts ≠ [])
    (hparts : ∀ p ∈ parts, StartsInk p ∧ EndsInk p) :
    StartsInk (sep.intercalate parts) ∧ EndsInk (sep.intercalate parts) := by
  induction parts with
  | nil => exact absurd rfl hne
  | cons first parts ih =>
    have hfirst := hparts first List.mem_cons_self
    cases parts with
    | nil => simpa using hfirst
    | cons next parts =>
      have hlater := ih (by simp) fun p hp => hparts p (List.mem_cons_of_mem first hp)
      rw [List.intercalate_cons_cons]
      exact ⟨(hfirst.1.append sep).append _, hlater.2.append _⟩

/-- What starts and ends with ink is not touched by trimming a text that contains it. -/
theorem infix_trim {part : List Char} (hstart : StartsInk part) (hend : EndsInk part)
    (h : part <:+: text) : part <:+: trim text := by
  obtain ⟨left, right, rfl⟩ := h
  rw [trim_append_append hstart hend]
  exact List.infix_append _ _ _

theorem trim_isInfix (text : List Char) : trim text <:+: text := by
  have hstart : trimStart text <:+ text := List.dropWhile_suffix isBlank
  have hend : trim text <+: trimStart text := by
    rw [trim, trimEnd, ← List.reverse_suffix, List.reverse_reverse]
    exact List.dropWhile_suffix isBlank
  exact hend.isInfix.trans hstart.isInfix

end DeclDocs.Text
