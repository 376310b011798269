import DeclDocs.Doc.Search

/-!
Which end tag closes which element, said without a stack. An end tag matches the latest start tag of
its name that is still open, and closes that element together with all that was opened after it; an
end tag with no such start tag closes nothing. The search for a section keeps the open elements on a
stack of names. Here the stack is shown to list the open elements, innermost first, at every tag, and
the section that is found to be the first top-level element of its name with the end tag that
matches it.
-/
namespace DeclDocs.Doc

def elementTags (text : List Char) : List Tag := (tags text).filter fun tag => !tag.selfClosing

def startName? (ts : List Tag) (i : Nat) : Option (List Char) :=
  ts[i]?.bind fun tag => if tag.closing then none else some tag.name

def endName? (ts : List Tag) (j : Nat) : Option (List Char) :=
  ts[j]?.bind fun tag => if tag.closing then some tag.name else none

mutual

/-- The element that starts at `i` is open at the tag at `k`: no end tag between the two has
matched it or an element around it. -/
def IsOpen (ts : List Tag) (i k : Nat) : Prop :=
  i < k ∧ (∃ name, startName? ts i = some name) ∧
    ∀ j, i < j → j < k → ∀ m, m ≤ i → ¬ Matches ts m j
termination_by (k, 0)

/-- The end tag at `j` matches the start tag at `i`: the latest one of its name that is open. -/
def Matches (ts : List Tag) (i j : Nat) : Prop :=
  ∃ name, endName? ts j = some name ∧ startName? ts i = some name ∧ IsOpen ts i j ∧
    ∀ i', i < i' → startName? ts i' = some name → ¬ IsOpen ts i' j
termination_by (j, 1)

end

def IsTopLevel (ts : List Tag) (k : Nat) : Prop := ∀ i, ¬ IsOpen ts i k

def IsSectionStart (ts : List Tag) (wanted : List Char) (i : Nat) : Prop :=
  startName? ts i = some wanted ∧ IsTopLevel ts i ∧
    ∀ i', i' < i → startName? ts i' = some wanted → ¬ IsTopLevel ts i'

variable {ts : List Tag}

theorem IsOpen.lt {i k : Nat} (h : IsOpen ts i k) : i < k := by
  rw [IsOpen] at h
  exact h.1

theorem Matches.isOpen {i j : Nat} (h : Matches ts i j) : IsOpen ts i j := by
  rw [Matches] at h
  obtain ⟨name, -, -, hopen, -⟩ := h
  exact hopen

theorem matches_iff {i j : Nat} : Matches ts i j ↔
    ∃ name, endName? ts j = some name ∧ startName? ts i = some name ∧ IsOpen ts i j ∧
      ∀ i', i < i' → startName? ts i' = some name → ¬ IsOpen ts i' j := by
  rw [Matches]

/-- An element is matched by one end tag at most: the first one closes it. -/
theorem Matches.unique {i j j' : Nat} (h : Matches ts i j) (h' : Matches ts i j') : j = j' := by
  have hfirst : ∀ {a b : Nat}, Matches ts i a → Matches ts i b → ¬ a < b := by
    intro a b ha hb hab
    have hopen := hb.isOpen
    rw [IsOpen] at hopen
    exact hopen.2.2 a ha.isOpen.lt hab i (Nat.le_refl i) ha
  have hle := hfirst h h'
  have hge := hfirst h' h
  omega

theorem IsSectionStart.unique {wanted : List Char} {i i' : Nat}
    (h : IsSectionStart ts wanted i) (h' : IsSectionStart ts wanted i') : i = i' := by
  rcases Nat.lt_trichotomy i i' with hlt | heq | hgt
  · exact absurd h.2.1 (h'.2.2 i hlt h.1)
  · exact heq
  · exact absurd h'.2.1 (h.2.2 i' hgt h'.1)

/-- What one tag does to the open elements. -/
theorem isOpen_succ {i k : Nat} : IsOpen ts i (k + 1) ↔
    (i = k ∧ ∃ name, startName? ts k = some name) ∨
      (IsOpen ts i k ∧ ∀ m, m ≤ i → ¬ Matches ts m k) := by
  constructor
  · intro h
    rw [IsOpen] at h
    obtain ⟨hlt, hname, hclosed⟩ := h
    by_cases hik : i = k
    · subst hik
      exact Or.inl ⟨rfl, hname⟩
    · refine Or.inr ⟨?_, hclosed k (by omega) (by omega)⟩
      rw [IsOpen]
      exact ⟨by omega, hname, fun j hij hjk => hclosed j hij (by omega)⟩
  · rintro (⟨rfl, hname⟩ | ⟨hopen, hlast⟩)
    · rw [IsOpen]
      exact ⟨by omega, hname, fun j hij hjk => by omega⟩
    · rw [IsOpen] at hopen ⊢
      obtain ⟨hlt, hname, hclosed⟩ := hopen
      refine ⟨by omega, hname, fun j hij hjk => ?_⟩
      by_cases hj : j = k
      · subst hj
        exact hlast
      · exact hclosed j hij (by omega)

theorem isOpen_succ_start {i k : Nat} {name : List Char} (h : startName? ts k = some name)
    (hend : endName? ts k = none) : IsOpen ts i (k + 1) ↔ i = k ∨ IsOpen ts i k := by
  have hnone : ∀ m, ¬ Matches ts m k := by
    intro m hm
    obtain ⟨other, hother, -⟩ := matches_iff.mp hm
    simp [hend] at hother
  rw [isOpen_succ]
  constructor
  · rintro (⟨hik, -⟩ | ⟨hopen, -⟩)
    · exact Or.inl hik
    · exact Or.inr hopen
  · rintro (hik | hopen)
    · exact Or.inl ⟨hik, name, h⟩
    · exact Or.inr ⟨hopen, fun m _ => hnone m⟩

theorem isOpen_succ_stray {i k : Nat} (hstart : startName? ts k = none)
    (hnone : ∀ m, ¬ Matches ts m k) : IsOpen ts i (k + 1) ↔ IsOpen ts i k := by
  rw [isOpen_succ]
  constructor
  · rintro (⟨-, name, hname⟩ | ⟨hopen, -⟩)
    · simp [hstart] at hname
    · exact hopen
  · intro hopen
    exact Or.inr ⟨hopen, fun m _ => hnone m⟩

/-- A matching end tag leaves open what was opened before the element that it matches. -/
theorem isOpen_succ_end {i k m : Nat} (hstart : startName? ts k = none) (hm : Matches ts m k) :
    IsOpen ts i (k + 1) ↔ IsOpen ts i k ∧ i < m := by
  rw [isOpen_succ]
  constructor
  · rintro (⟨-, name, hname⟩ | ⟨hopen, hlast⟩)
    · simp [hstart] at hname
    · exact ⟨hopen, Nat.lt_of_not_le fun hle => hlast m hle hm⟩
  · rintro ⟨hopen, hlt⟩
    refine Or.inr ⟨hopen, fun m' hm' hmatch => ?_⟩
    -- Two elements matched by one tag have one name, and the tag matches the latest of them.
    obtain ⟨name, hend, hname, hmopen, -⟩ := matches_iff.mp hm
    obtain ⟨name', hend', -, -, hlatest⟩ := matches_iff.mp hmatch
    have hsame : name = name' := Option.some.inj (hend.symm.trans hend')
    subst hsame
    exact hlatest m (by omega) hname hmopen

structure Opened (ts : List Tag) (k : Nat) (elements : List Nat) : Prop where
  decreasing : elements.Pairwise (· > ·)
  mem_iff : ∀ i, i ∈ elements ↔ IsOpen ts i k

theorem opened_zero : Opened ts 0 [] where
  decreasing := List.Pairwise.nil
  mem_iff i := by
    constructor
    · intro h
      simp at h
    · intro h
      have hlt := h.lt
      omega

theorem Opened.isTopLevel_iff {k : Nat} {elements : List Nat} (h : Opened ts k elements) :
    IsTopLevel ts k ↔ elements = [] := by
  rw [List.eq_nil_iff_forall_not_mem]
  exact forall_congr' fun i => not_congr (h.mem_iff i).symm

theorem Opened.start {k : Nat} {elements : List Nat} {name : List Char}
    (h : Opened ts k elements) (hname : startName? ts k = some name)
    (hend : endName? ts k = none) : Opened ts (k + 1) (k :: elements) where
  decreasing := by
    refine List.pairwise_cons.mpr ⟨fun i hi => ?_, h.decreasing⟩
    exact ((h.mem_iff i).mp hi).lt
  mem_iff i := by
    rw [isOpen_succ_start hname hend, List.mem_cons, h.mem_iff]

theorem Opened.stray {k : Nat} {elements : List Nat} (h : Opened ts k elements)
    (hstart : startName? ts k = none) (hnone : ∀ m, ¬ Matches ts m k) :
    Opened ts (k + 1) elements where
  decreasing := h.decreasing
  mem_iff i := by rw [isOpen_succ_stray hstart hnone, h.mem_iff]

theorem Opened.close {k m : Nat} {inner outer : List Nat} (h : Opened ts k (inner ++ m :: outer))
    (hstart : startName? ts k = none) (hm : Matches ts m k) : Opened ts (k + 1) outer where
  decreasing := (List.pairwise_cons.mp (List.pairwise_append.mp h.decreasing).2.1).2
  mem_iff i := by
    obtain ⟨-, hright, hcross⟩ := List.pairwise_append.mp h.decreasing
    rw [isOpen_succ_end hstart hm, ← h.mem_iff]
    constructor
    · intro hi
      exact ⟨List.mem_append_right _ (List.mem_cons_of_mem m hi),
        (List.pairwise_cons.mp hright).1 i hi⟩
    · rintro ⟨hi, hlt⟩
      rcases List.mem_append.mp hi with hinner | hcons
      · have := hcross i hinner m List.mem_cons_self
        omega
      · rcases List.mem_cons.mp hcons with rfl | houter
        · omega
        · exact houter

def elementName (ts : List Tag) (i : Nat) : List Char := (startName? ts i).getD []

theorem IsOpen.startName?_eq {i k : Nat} (h : IsOpen ts i k) :
    startName? ts i = some (elementName ts i) := by
  rw [IsOpen] at h
  obtain ⟨-, ⟨name, hname⟩, -⟩ := h
  rw [elementName, hname, Option.getD_some]

/-- An end tag whose name is on the stack matches the topmost element of that name, and what is
below that element stays on the stack. -/
theorem Opened.closeElement_eq {k : Nat} {elements : List Nat} {name : List Char}
    (h : Opened ts k elements) (hend : endName? ts k = some name)
    (hmem : name ∈ elements.map (elementName ts)) :
    ∃ inner m outer, elements = inner ++ m :: outer ∧ Matches ts m k ∧
      closeElement name (elements.map (elementName ts)) = outer.map (elementName ts) := by
  obtain ⟨i, hi, hiname⟩ := List.mem_map.mp hmem
  obtain ⟨m, inner, outer, hinner, hm, helements, -⟩ :=
    List.exists_of_eraseP (p := fun a => elementName ts a == name) hi (by simp [hiname])
  have hmname : elementName ts m = name := by simpa using hm
  have hmopen : IsOpen ts m k := (h.mem_iff m).mp (by simp [helements])
  refine ⟨inner, m, outer, helements, ?_, ?_⟩
  · refine matches_iff.mpr ⟨name, hend, by rw [hmopen.startName?_eq, hmname], hmopen, ?_⟩
    intro i' hlt hname' hopen'
    -- A later element of the name would stand above `m`, where no element has the name.
    have hmem' : i' ∈ inner ++ m :: outer := helements ▸ (h.mem_iff i').mpr hopen'
    have hdecreasing := helements ▸ h.decreasing
    have houter := (List.pairwise_cons.mp (List.pairwise_append.mp hdecreasing).2.1).1
    rcases List.mem_append.mp hmem' with hin | hcons
    · exact hinner i' hin (by simp [elementName, hname'])
    · rcases List.mem_cons.mp hcons with rfl | hout
      · omega
      · have := houter i' hout
        omega
  · have hpass : ∀ n ∈ inner.map (elementName ts), (n != name) = true := by
      intro n hn
      obtain ⟨a, ha, rfl⟩ := List.mem_map.mp hn
      simpa using hinner a ha
    rw [helements, List.map_append, List.map_cons, hmname, closeElement,
      List.dropWhile_append_of_pos hpass, List.dropWhile_cons_of_neg (by simp), List.tail_cons]

/-- An end tag whose name is not on the stack matches nothing. -/
theorem Opened.not_matches {k : Nat} {elements : List Nat} {name : List Char}
    (h : Opened ts k elements) (hend : endName? ts k = some name)
    (hmem : name ∉ elements.map (elementName ts)) (m : Nat) : ¬ Matches ts m k := by
  intro hm
  obtain ⟨other, hother, hname, hopen, -⟩ := matches_iff.mp hm
  have hsame : name = other := Option.some.inj (hend.symm.trans hother)
  apply hmem
  refine List.mem_map.mpr ⟨m, (h.mem_iff m).mpr hopen, ?_⟩
  rw [elementName, hname, Option.getD_some, hsame]

def Answers (ts : List Tag) (wanted : List Char) : Search → Prop
  | .found start stop => ∃ i j first last, IsSectionStart ts wanted i ∧ Matches ts i j ∧
      ts[i]? = some first ∧ ts[j]? = some last ∧ start = first.start ∧ stop = last.stop
  | .absent _ => ¬ ∃ i j, IsSectionStart ts wanted i ∧ Matches ts i j

section Run

variable {wanted : List Char} {before rest : List Tag}

theorem getElem?_of_split {tag : Tag} (hts : ts = before ++ tag :: rest) :
    ts[before.length]? = some tag := by
  rw [hts, List.getElem?_append_right (Nat.le_refl _), Nat.sub_self, List.getElem?_cons_zero]

theorem startName?_of_split {tag : Tag} (hts : ts = before ++ tag :: rest) :
    startName? ts before.length = if tag.closing then none else some tag.name := by
  rw [startName?, getElem?_of_split hts, Option.bind_some]

theorem endName?_of_split {tag : Tag} (hts : ts = before ++ tag :: rest) :
    endName? ts before.length = if tag.closing then some tag.name else none := by
  rw [endName?, getElem?_of_split hts, Option.bind_some]

theorem Matches.lt_length {i j : Nat} (h : Matches ts i j) : j < ts.length := by
  obtain ⟨name, hend, -⟩ := matches_iff.mp h
  rw [endName?] at hend
  obtain ⟨tag, htag, -⟩ := Option.bind_eq_some_iff.mp hend
  exact (List.getElem?_eq_some_iff.mp htag).1

theorem lt_length_of_startName? {i : Nat} {name : List Char} (h : startName? ts i = some name) :
    i < ts.length := by
  rw [startName?] at h
  obtain ⟨tag, htag, -⟩ := Option.bind_eq_some_iff.mp h
  exact (List.getElem?_eq_some_iff.mp htag).1

theorem elementName_of_split {tag : Tag} (hts : ts = before ++ tag :: rest)
    (hstart : tag.closing = false) : elementName ts before.length = tag.name := by
  rw [elementName, startName?_of_split hts, hstart]
  rfl

/-- What a tag does to the open elements and to the stack of their names. -/
theorem Opened.step {tag : Tag} {elements : List Nat} (hts : ts = before ++ tag :: rest)
    (h : Opened ts before.length elements) :
    (tag.closing = false ∧ Opened ts (before ++ [tag]).length (before.length :: elements)) ∨
      (∃ inner m outer, tag.closing = true ∧ elements = inner ++ m :: outer ∧
        Matches ts m before.length ∧
        (elements.map (elementName ts)).contains tag.name = true ∧
        closeElement tag.name (elements.map (elementName ts)) = outer.map (elementName ts) ∧
        Opened ts (before ++ [tag]).length outer) ∨
      (tag.closing = true ∧ (elements.map (elementName ts)).contains tag.name = false ∧
        Opened ts (before ++ [tag]).length elements) := by
  have hstartName := startName?_of_split hts
  have hendName := endName?_of_split hts
  rw [List.length_append, List.length_singleton]
  cases hclosing : tag.closing with
  | false =>
    simp only [hclosing, Bool.false_eq_true, if_false] at hstartName hendName
    exact Or.inl ⟨rfl, h.start hstartName hendName⟩
  | true =>
    simp only [hclosing, if_true] at hstartName hendName
    by_cases hmem : tag.name ∈ elements.map (elementName ts)
    · obtain ⟨inner, m, outer, helements, hmatch, hclose⟩ := h.closeElement_eq hendName hmem
      exact Or.inr (Or.inl ⟨inner, m, outer, rfl, helements, hmatch, by simpa using hmem, hclose,
        (helements ▸ h).close hstartName hmatch⟩)
    · exact Or.inr (Or.inr ⟨rfl, by simpa using hmem,
        h.stray hstartName (h.not_matches hendName hmem)⟩)

/-- Closing an element either takes the bottom element off the stack or leaves it at the bottom. -/
theorem bottom_cases {elements inner outer : List Nat} {i m : Nat}
    (h : elements ++ [i] = inner ++ m :: outer) :
    (outer = [] ∧ m = i) ∨ ∃ above, outer = above ++ [i] := by
  have hlast := congrArg List.getLast? h
  rcases List.eq_nil_or_concat outer with rfl | ⟨above, bottom, rfl⟩
  · exact Or.inl ⟨rfl, by simpa using hlast.symm⟩
  · rw [List.concat_eq_append, ← List.cons_append, ← List.append_assoc, List.getLast?_concat,
      List.getLast?_concat] at hlast
    exact Or.inr ⟨above, by rw [List.concat_eq_append, Option.some.inj hlast]⟩

/-- Inside a section, its element is at the bottom of the stack, so only the end tag that matches
it can empty the stack. -/
theorem searchFrom_inside (hself : ∀ tag ∈ ts, tag.selfClosing = false) {i : Nat} {first : Tag}
    (hi : IsSectionStart ts wanted i) (hfirst : ts[i]? = some first) (elements : List Nat)
    (hts : ts = before ++ rest) (h : Opened ts before.length (elements ++ [i])) :
    Answers ts wanted
      (searchFrom wanted ((elements ++ [i]).map (elementName ts)) (some first.start) rest) := by
  induction rest generalizing before elements with
  | nil =>
    intro ⟨i', j, hi', hmatch⟩
    have hlt : j < before.length := by simpa [hts] using hmatch.lt_length
    have hsame := hi.unique hi'
    subst hsame
    have hopen := (h.mem_iff i).mp (by simp)
    rw [IsOpen] at hopen
    exact hopen.2.2 j hmatch.isOpen.lt hlt i (Nat.le_refl i) hmatch
  | cons tag rest ih =>
    have hts' : ts = (before ++ [tag]) ++ rest := by simpa using hts
    have htag : tag.selfClosing = false := hself tag (by simp [hts])
    rcases h.step hts with ⟨hclosing, hnext⟩ |
        ⟨inner, m, outer, hclosing, helements, hmatch, hcontains, hclose, hnext⟩ |
        ⟨hclosing, hcontains, hnext⟩
    · have := ih (before.length :: elements) hts' hnext
      simpa [searchFrom, htag, hclosing, elementName_of_split hts hclosing] using this
    · rw [searchFrom, htag, hclosing, hcontains, hclose]
      rcases bottom_cases helements with ⟨rfl, rfl⟩ | ⟨above, rfl⟩
      · exact ⟨m, before.length, first, tag, hi, hmatch, hfirst, getElem?_of_split hts, rfl, rfl⟩
      · simpa using ih above hts' hnext
    · rw [searchFrom, htag, hclosing, hcontains]
      exact ih elements hts' hnext

/-- Before a section starts, the search only follows the open elements. -/
theorem searchFrom_before (hself : ∀ tag ∈ ts, tag.selfClosing = false) (elements : List Nat)
    (hts : ts = before ++ rest) (h : Opened ts before.length elements)
    (hnone : ∀ i, i < before.length → startName? ts i = some wanted → ¬ IsTopLevel ts i) :
    Answers ts wanted (searchFrom wanted (elements.map (elementName ts)) none rest) := by
  induction rest generalizing before elements with
  | nil =>
    intro ⟨i, j, hi, hmatch⟩
    have hlt : i < before.length := by simpa [hts] using lt_length_of_startName? hi.1
    exact hnone i hlt hi.1 hi.2.1
  | cons tag rest ih =>
    have hts' : ts = (before ++ [tag]) ++ rest := by simpa using hts
    have htag : tag.selfClosing = false := hself tag (by simp [hts])
    -- Unless the section starts here, no start tag of the name is at the top level so far.
    have hnone' : (tag.closing = false → ¬ (elements = [] ∧ tag.name = wanted)) →
        ∀ i, i < (before ++ [tag]).length → startName? ts i = some wanted →
          ¬ IsTopLevel ts i := by
      intro hbegins i hlt hname htop
      rw [List.length_append, List.length_singleton] at hlt
      by_cases hi : i < before.length
      · exact hnone i hi hname htop
      · have hilast : i = before.length := by omega
        subst hilast
        rw [startName?_of_split hts] at hname
        cases hclosing : tag.closing with
        | false =>
          rw [hclosing] at hname
          exact hbegins hclosing ⟨h.isTopLevel_iff.mp htop, Option.some.inj hname⟩
        | true => simp [hclosing] at hname
    rcases h.step hts with ⟨hclosing, hnext⟩ |
        ⟨inner, m, outer, hclosing, helements, hmatch, hcontains, hclose, hnext⟩ |
        ⟨hclosing, hcontains, hnext⟩
    · by_cases hbegins : elements = [] ∧ tag.name = wanted
      · obtain ⟨rfl, hname⟩ := hbegins
        have hi : IsSectionStart ts wanted before.length := by
          refine ⟨?_, h.isTopLevel_iff.mpr rfl, hnone⟩
          rw [startName?_of_split hts, hclosing, hname]
          rfl
        have := searchFrom_inside hself hi (getElem?_of_split hts) [] hts' hnext
        simpa [searchFrom, htag, hclosing, hname, elementName_of_split hts hclosing] using this
      · have hfalse : ((elements.map (elementName ts)).isEmpty && tag.name == wanted) = false := by
          simpa using hbegins
        have := ih (before.length :: elements) hts' hnext (hnone' fun _ => hbegins)
        rw [searchFrom, htag, hclosing, hfalse]
        simpa [elementName_of_split hts hclosing] using this
    · rw [searchFrom, htag, hclosing, hcontains, hclose]
      simpa using ih outer hts' hnext (hnone' (by simp [hclosing]))
    · rw [searchFrom, htag, hclosing, hcontains]
      exact ih elements hts' hnext (hnone' (by simp [hclosing]))

end Run

/-- Tags that close themselves take no part in the search. -/
theorem searchFrom_filter (wanted : List Char) (openElements : List (List Char))
    (sectionStart : Option Nat) (all : List Tag) :
    searchFrom wanted openElements sectionStart (all.filter fun tag => !tag.selfClosing) =
      searchFrom wanted openElements sectionStart all := by
  induction all generalizing openElements sectionStart with
  | nil => rfl
  | cons tag rest ih =>
    cases hself : tag.selfClosing with
    | true => simp [hself, searchFrom, ih]
    | false =>
      simp only [List.filter_cons, hself, Bool.not_false, if_true, searchFrom, ih]

theorem search_answers (text : List Char) (wanted : Section) :
    Answers (elementTags text) wanted.name.toList (search text wanted) := by
  have hself : ∀ tag ∈ elementTags text, tag.selfClosing = false := by
    intro tag htag
    simpa using (List.mem_filter.mp htag).2
  have hts : elementTags text = [] ++ elementTags text := rfl
  rw [search, ← searchFrom_filter]
  exact searchFrom_before hself [] hts opened_zero (by simp)

theorem name_of_startName? {i : Nat} {name : List Char} {tag : Tag}
    (h : startName? ts i = some name) (htag : ts[i]? = some tag) : tag.name = name := by
  rw [startName?, htag, Option.bind_some] at h
  split at h
  · simp at h
  · exact Option.some.inj h

theorem name_of_endName? {j : Nat} {name : List Char} {tag : Tag}
    (h : endName? ts j = some name) (htag : ts[j]? = some tag) : tag.name = name := by
  rw [endName?, htag, Option.bind_some] at h
  split at h
  · exact Option.some.inj h
  · simp at h

/-- The section that is found reaches from the first top-level start tag of its name to the end tag
that matches it; it is absent if there is no such start tag or if no end tag matches it. -/
theorem findSection_eq_matching (text : List Char) (wanted : Section) :
    let ts := elementTags text
    let name := wanted.name.toList
    (∀ s, findSection? text wanted = some s ↔
      ∃ i j first last, IsSectionStart ts name i ∧ Matches ts i j ∧
        ts[i]? = some first ∧ ts[j]? = some last ∧ first.name = name ∧ last.name = name ∧
        s = slice text first.start last.stop) ∧
    (findSection? text wanted = none ↔ ¬ ∃ i j, IsSectionStart ts name i ∧ Matches ts i j) := by
  intro ts name
  have hanswers : Answers ts name (search text wanted) := search_answers text wanted
  rw [findSection?]
  cases hsearch : search text wanted with
  | found start stop =>
    rw [hsearch] at hanswers
    obtain ⟨i, j, first, last, hi, hmatch, hfirst, hlast, rfl, rfl⟩ := hanswers
    refine ⟨fun s => ⟨fun hs => ?_, ?_⟩, ⟨fun h => by simp at h, fun h => absurd ⟨i, j, hi, hmatch⟩ h⟩⟩
    · obtain ⟨other, hend, hstart, -⟩ := matches_iff.mp hmatch
      have hname : other = name := Option.some.inj (hstart.symm.trans hi.1)
      exact ⟨i, j, first, last, hi, hmatch, hfirst, hlast, name_of_startName? hi.1 hfirst,
        hname ▸ name_of_endName? hend hlast, (Option.some.inj hs).symm⟩
    · rintro ⟨i', j', first', last', hi', hmatch', hfirst', hlast', -, -, rfl⟩
      obtain rfl := hi.unique hi'
      obtain rfl := hmatch.unique hmatch'
      rw [Option.some.inj (hfirst.symm.trans hfirst'), Option.some.inj (hlast.symm.trans hlast')]
  | absent unclosed =>
    rw [hsearch] at hanswers
    refine ⟨fun s => ⟨fun hs => by simp at hs, ?_⟩, ⟨fun _ => hanswers, fun _ => rfl⟩⟩
    rintro ⟨i, j, first, last, hi, hmatch, -⟩
    exact absurd ⟨i, j, hi, hmatch⟩ hanswers

end DeclDocs.Doc
