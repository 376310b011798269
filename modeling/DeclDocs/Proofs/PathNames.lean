import DeclDocs.Files.Path
import DeclDocs.Proofs.TextLaws
import Mathlib.Data.List.Basic
import Mathlib.Data.List.TakeWhile

/-!
The names that a path leads along, counted from the root. Making a path absolute does not change
them, putting an entry behind a path adds its name, and the directory part of a path without double
dots leads along a start of them.
-/
namespace DeclDocs.Path

open Text

def isName (component : Path) : Bool := !isTrivial component && component != parentMark

def names (path : Path) : List Path := reduce true (components path)

section Reducing

variable {rooted : Bool} {kept parts : List Path} {component : Path}

theorem isTrivial_of_eq_nil (h : component = []) : isTrivial component = true := by
  rw [h]
  rfl

theorem ne_parentMark_of_isTrivial (h : isTrivial component = true) : component ≠ parentMark := by
  rintro rfl
  simp [isTrivial, parentMark] at h

theorem isTrivial_eq_false_of_isName (h : isName component = true) :
    isTrivial component = false := by
  simp_all [isName]

theorem ne_parentMark_of_isName (h : isName component = true) : component ≠ parentMark := by
  simp_all [isName]

theorem reduceStep_of_isTrivial (h : isTrivial component = true) :
    reduceStep rooted kept component = kept := by
  simp [reduceStep, h]

theorem reduceStep_of_isName (h : isName component = true) :
    reduceStep rooted kept component = component :: kept := by
  simp [reduceStep, isTrivial_eq_false_of_isName h, ne_parentMark_of_isName h]

/-- From the root a double dot takes back one name, if there is one. -/
theorem reduceStep_parentMark (h : ∀ name ∈ kept, isName name = true) :
    reduceStep true kept parentMark = kept.tail := by
  cases kept with
  | nil => rfl
  | cons last rest =>
    have hlast : last ≠ parentMark := ne_parentMark_of_isName (h last List.mem_cons_self)
    simp [reduceStep, isTrivial, parentMark] at hlast ⊢
    exact fun heq => absurd heq hlast

theorem isName_of_mem_reduceStep (h : ∀ name ∈ kept, isName name = true) :
    ∀ name ∈ reduceStep true kept component, isName name = true := by
  by_cases htrivial : isTrivial component = true
  · rwa [reduceStep_of_isTrivial htrivial]
  · by_cases hparent : component = parentMark
    · rw [hparent, reduceStep_parentMark h]
      exact fun name hname => h name (List.mem_of_mem_tail hname)
    · have hcomponent : isName component = true := by simp [isName, htrivial, hparent]
      rw [reduceStep_of_isName hcomponent]
      intro name hname
      rcases List.mem_cons.mp hname with rfl | hname
      · exact hcomponent
      · exact h name hname

theorem isName_of_mem_foldl (parts : List Path) (h : ∀ name ∈ kept, isName name = true) :
    ∀ name ∈ parts.foldl (reduceStep true) kept, isName name = true := by
  induction parts generalizing kept with
  | nil => exact h
  | cons component parts ih => exact ih (isName_of_mem_reduceStep h)

theorem isName_of_mem_reduce {name : Path} (h : name ∈ reduce true parts) :
    isName name = true :=
  isName_of_mem_foldl parts (by simp) name (List.mem_reverse.mp h)

theorem reduce_append_name (parts : List Path) (h : isName component = true) :
    reduce rooted (parts ++ [component]) = reduce rooted parts ++ [component] := by
  simp [reduce, reduceStep_of_isName h]

theorem reduce_append_trivial (parts : List Path) {trivial : List Path}
    (h : ∀ component ∈ trivial, isTrivial component = true) :
    reduce rooted (parts ++ trivial) = reduce rooted parts := by
  have hkept : ∀ kept, trivial.foldl (reduceStep rooted) kept = kept := by
    intro kept
    induction trivial with
    | nil => rfl
    | cons component trivial ih =>
      rw [List.foldl_cons, reduceStep_of_isTrivial (h component List.mem_cons_self)]
      exact ih fun c hc => h c (List.mem_cons_of_mem component hc)
  simp [reduce, hkept]

theorem foldl_reduceStep_eq (h : parentMark ∉ parts) :
    parts.foldl (reduceStep rooted) kept =
      (parts.filter fun component => !isTrivial component).reverse ++ kept := by
  induction parts generalizing kept with
  | nil => rfl
  | cons component parts ih =>
    simp only [List.mem_cons, not_or] at h
    by_cases htrivial : isTrivial component = true
    · simp [reduceStep_of_isTrivial htrivial, ih h.2, htrivial]
    · have hname : isName component = true := by simp [isName, htrivial, Ne.symm h.1]
      simp [reduceStep_of_isName hname, ih h.2, htrivial]

/-- Without double dots, reducing only leaves out the trivial components. -/
theorem reduce_eq_filter (h : parentMark ∉ parts) :
    reduce rooted parts = parts.filter fun component => !isTrivial component := by
  simp [reduce, foldl_reduceStep_eq h]

theorem mem_of_mem_reduceStep {name : Path} (h : name ∈ reduceStep rooted kept component) :
    name ∈ kept ∨ name = component := by
  unfold reduceStep at h
  grind

theorem mem_of_mem_foldl {name : Path} (h : name ∈ parts.foldl (reduceStep rooted) kept) :
    name ∈ kept ∨ name ∈ parts := by
  induction parts generalizing kept with
  | nil => exact Or.inl h
  | cons component parts ih =>
    rcases ih h with hkept | hparts
    · rcases mem_of_mem_reduceStep hkept with hkept | rfl
      · exact Or.inl hkept
      · exact Or.inr List.mem_cons_self
    · exact Or.inr (List.mem_cons_of_mem component hparts)

theorem mem_of_mem_reduce {name : Path} (h : name ∈ reduce rooted parts) : name ∈ parts := by
  rcases mem_of_mem_foldl (List.mem_reverse.mp h) with hnil | hparts
  · simp at hnil
  · exact hparts

end Reducing

section Names

variable {base path name : Path}

theorem isName_of_mem_names (h : name ∈ names path) : isName name = true := isName_of_mem_reduce h

theorem slash_not_mem_of_mem_names (h : name ∈ names path) : '/' ∉ name :=
  not_mem_of_mem_splitOn (mem_of_mem_reduce h)

theorem components_append (left right : Path) :
    components (left ++ '/' :: right) = components left ++ components right :=
  splitOn_append '/' left right

theorem components_of_slash_not_mem (h : '/' ∉ name) : components name = [name] :=
  splitOn_of_not_mem h

theorem isAbsolute_of_slash_not_mem (h : '/' ∉ name) : isAbsolute name = false := by
  cases name with
  | nil => rfl
  | cons c rest =>
    have hc : c ≠ '/' := fun heq => h (heq ▸ List.mem_cons_self)
    simp [isAbsolute, hc]

theorem join_of_slash_not_mem (base : Path) (h : '/' ∉ name) :
    join base name =
      if base.isEmpty || base.getLast? == some '/' then base ++ name else base ++ '/' :: name := by
  rw [join, if_neg (by simp [isAbsolute_of_slash_not_mem h])]

/-- The components of a relative path are taken one by one from where the other path leads. -/
theorem names_join_of_relative (base : Path) (h : isAbsolute path = false) :
    names (join base path) =
      ((components path).foldl (reduceStep true) (names base).reverse).reverse := by
  have hskip (parts : List Path) :
      reduce true (parts ++ [[]] ++ components path) = reduce true (parts ++ components path) := by
    simp [reduce, reduceStep_of_isTrivial (isTrivial_of_eq_nil rfl)]
  have hboth : ((components path).foldl (reduceStep true) (names base).reverse).reverse =
      reduce true (components base ++ components path) := by
    simp [names, reduce]
  rw [hboth, names, join, if_neg (by simp [h])]
  split
  · rename_i hend
    rcases List.eq_nil_or_concat' base with rfl | ⟨body, c, rfl⟩
    · exact (hskip []).symm
    · obtain rfl : c = '/' := by simpa using hend
      rw [List.append_assoc, List.singleton_append, components_append, components_append]
      exact (hskip (components body)).symm
  · rw [components_append]

/-- An entry of a directory is reached along the names of the directory and its own. -/
theorem names_join (hname : isName name = true) (hslash : '/' ∉ name) :
    names (join base name) = names base ++ [name] := by
  rw [names_join_of_relative base (isAbsolute_of_slash_not_mem hslash),
    components_of_slash_not_mem hslash]
  simp [reduceStep_of_isName hname]

theorem components_joinParts {parts : List Path} (hne : parts ≠ [])
    (hslash : ∀ part ∈ parts, '/' ∉ part) : components (joinParts parts) = parts :=
  splitOn_intercalate hslash hne

theorem eq_nil_of_mem_components_slashes {slashes : Path} (h : ∀ c ∈ slashes, c = '/') :
    ∀ component ∈ components slashes, component = [] := by
  induction slashes with
  | nil => simp [components, splitOn]
  | cons c slashes ih =>
    obtain rfl : c = '/' := h c List.mem_cons_self
    have hcomponents := components_append [] slashes
    rw [List.nil_append] at hcomponents
    rw [hcomponents]
    intro component hmem
    rcases List.mem_append.mp hmem with hempty | hlater
    · simpa [components, splitOn] using hempty
    · exact ih (fun d hd => h d (List.mem_cons_of_mem _ hd)) component hlater

/-- Slashes in front are only seen as empty components. -/
theorem components_slashes_append {slashes : Path} (h : ∀ c ∈ slashes, c = '/') (path : Path) :
    ∃ empty, components (slashes ++ path) = empty ++ components path ∧
      ∀ component ∈ empty, component = [] := by
  rcases List.eq_nil_or_concat' slashes with rfl | ⟨body, c, rfl⟩
  · exact ⟨[], rfl, by simp⟩
  · obtain rfl : c = '/' := h c (by simp)
    refine ⟨components body, ?_, ?_⟩
    · rw [List.append_assoc, List.singleton_append, components_append]
    · exact eq_nil_of_mem_components_slashes fun d hd => h d (List.mem_append_left _ hd)

theorem eq_slash_of_mem_rootSlashes {c : Char} (h : c ∈ rootSlashes path) : c = '/' := by
  unfold rootSlashes at h
  split at h <;> simp_all

theorem exists_rootSlashes (h : isAbsolute path = true) :
    ∃ more, rootSlashes path = '/' :: more := by
  cases path with
  | nil => simp [isAbsolute] at h
  | cons c rest =>
    obtain rfl : c = '/' := by simpa [isAbsolute] using h
    unfold rootSlashes
    split <;> simp_all

theorem isAbsolute_join (h : isAbsolute base = true) (path : Path) :
    isAbsolute (join base path) = true := by
  cases base with
  | nil => simp [isAbsolute] at h
  | cons c rest =>
    unfold join
    split
    · assumption
    · split <;> simpa [isAbsolute] using h

theorem isAbsolute_normalize (h : isAbsolute path = true) : isAbsolute (normalize path) = true := by
  obtain ⟨more, hmore⟩ := exists_rootSlashes h
  simp [normalize, hmore, orDot, isAbsolute]

theorem normalize_eq (h : isAbsolute path = true) :
    normalize path = rootSlashes path ++ joinParts (names path) := by
  obtain ⟨more, hmore⟩ := exists_rootSlashes h
  simp [normalize, hmore, orDot, h, names]

/-- The components of a normalised path are its names, behind some that are empty. -/
theorem components_normalize (h : isAbsolute path = true) :
    ∃ empty, components (normalize path) = empty ++ names path ∧
      ∀ component ∈ empty, component = [] := by
  rw [normalize_eq h]
  obtain ⟨empty, hcomponents, hempty⟩ :=
    components_slashes_append (fun c hc => eq_slash_of_mem_rootSlashes hc) (joinParts (names path))
  rw [hcomponents]
  by_cases hnames : names path = []
  · refine ⟨empty ++ [[]], by simp [hnames, joinParts, components, splitOn], ?_⟩
    intro component hmem
    rcases List.mem_append.mp hmem with hmem | hmem
    · exact hempty component hmem
    · exact List.mem_singleton.mp hmem
  · refine ⟨empty, ?_, hempty⟩
    rw [components_joinParts hnames fun part hpart => slash_not_mem_of_mem_names hpart]

end Names

section Steps

variable {path slashes body last : Path}

/-- The components of a path that are not trivial; double dots stay. -/
def steps (path : Path) : List Path := (components path).filter fun c => !isTrivial c

theorem steps_append (left right : Path) :
    steps (left ++ '/' :: right) = steps left ++ steps right := by
  simp [steps, components_append]

theorem steps_slashes (h : ∀ c ∈ slashes, c = '/') : steps slashes = [] := by
  have htrivial : ∀ component ∈ components slashes, isTrivial component = true :=
    fun component hmem => isTrivial_of_eq_nil (eq_nil_of_mem_components_slashes h component hmem)
  simpa [steps] using htrivial

theorem steps_append_slashes (h : ∀ c ∈ slashes, c = '/') (path : Path) :
    steps (path ++ slashes) = steps path := by
  cases slashes with
  | nil => simp
  | cons c slashes =>
    obtain rfl : c = '/' := h c List.mem_cons_self
    rw [steps_append, steps_slashes fun d hd => h d (List.mem_cons_of_mem _ hd), List.append_nil]

/-- Without double dots all steps are names. -/
theorem names_eq_steps (h : parentMark ∉ steps path) : names path = steps path := by
  have hcomponents : parentMark ∉ components path := by
    intro hmem
    exact h (List.mem_filter.mpr ⟨hmem, by decide⟩)
  exact reduce_eq_filter hcomponents

theorem parentMark_not_mem_names : parentMark ∉ names path := by
  intro hmem
  exact ne_parentMark_of_isName (isName_of_mem_names hmem) rfl

theorem steps_normalize (h : isAbsolute path = true) : steps (normalize path) = names path := by
  obtain ⟨empty, hcomponents, hempty⟩ := components_normalize h
  have htrivial : ∀ component ∈ empty, isTrivial component = true :=
    fun component hmem => isTrivial_of_eq_nil (hempty component hmem)
  have hnames : ∀ name ∈ names path, isTrivial name = false := fun name hname =>
    isTrivial_eq_false_of_isName (isName_of_mem_names hname)
  rw [steps, hcomponents, List.filter_append, List.filter_eq_nil_iff.mpr (by simpa using htrivial),
    List.filter_eq_self.mpr (by simpa using hnames), List.nil_append]

/-- Normalising keeps the names, so a path can be normalised again. -/
theorem names_normalize (h : isAbsolute path = true) : names (normalize path) = names path := by
  rw [names_eq_steps (by rw [steps_normalize h]; exact parentMark_not_mem_names),
    steps_normalize h]

theorem exists_last_slash (h : '/' ∈ path) :
    ∃ body last, path = body ++ '/' :: last ∧ '/' ∉ last := by
  obtain ⟨after, before, hpath, hafter⟩ := List.eq_append_cons_of_mem (List.mem_reverse.mpr h)
  refine ⟨before.reverse, after.reverse, ?_, by simpa using hafter⟩
  simpa using congrArg List.reverse hpath

theorem ne_slash_of_mem_reverse (h : '/' ∉ last) : ∀ c ∈ last.reverse, (c != '/') = true := by
  intro c hc
  simp only [bne_iff_ne]
  rintro rfl
  exact h (List.mem_reverse.mp hc)

theorem throughLastSlash_append (body : Path) (h : '/' ∉ last) :
    throughLastSlash (body ++ '/' :: last) = body ++ ['/'] := by
  simp [throughLastSlash, List.dropWhile_append_of_pos (ne_slash_of_mem_reverse h)]

theorem afterLastSlash_append (body : Path) (h : '/' ∉ last) :
    afterLastSlash (body ++ '/' :: last) = last := by
  simp [afterLastSlash, List.takeWhile_append_of_pos (ne_slash_of_mem_reverse h)]

theorem afterLastSlash_of_slash_not_mem (h : '/' ∉ last) : afterLastSlash last = last := by
  rw [afterLastSlash, List.takeWhile_eq_self_iff.mpr (ne_slash_of_mem_reverse h),
    List.reverse_reverse]

/-- What stands behind the last slash is the last component. -/
theorem getLast?_components (path : Path) :
    (components path).getLast? = some (afterLastSlash path) := by
  by_cases h : '/' ∈ path
  · obtain ⟨body, last, rfl, hlast⟩ := exists_last_slash h
    simp [components_append, components_of_slash_not_mem hlast, afterLastSlash_append body hlast]
  · simp [components_of_slash_not_mem h, afterLastSlash_of_slash_not_mem h]

theorem directory_eq (body : Path) (h : '/' ∉ last) :
    directory (body ++ '/' :: last) =
      if (body ++ ['/']).all fun c => c == '/' then body ++ ['/']
      else ((body ++ ['/']).reverse.dropWhile fun c => c == '/').reverse := by
  simp only [directory, throughLastSlash_append body h]

/-- The directory part is the text before the last slash, but for slashes at its end. -/
theorem directory_append (body : Path) (h : '/' ∉ last) :
    ∃ slashes, (∀ c ∈ slashes, c = '/') ∧
      body ++ ['/'] = directory (body ++ '/' :: last) ++ slashes := by
  rw [directory_eq body h]
  split
  · exact ⟨[], by simp, by simp⟩
  · let back := (body ++ ['/']).reverse
    refine ⟨(back.takeWhile fun c => c == '/').reverse, ?_, ?_⟩
    · intro c hc
      simpa using List.mem_takeWhile_imp (List.mem_reverse.mp hc)
    · rw [← List.reverse_append, List.takeWhile_append_dropWhile, List.reverse_reverse]

theorem directory_of_slash_not_mem (h : '/' ∉ path) : directory path = [] := by
  have hnone : throughLastSlash path = [] := by
    simp only [throughLastSlash, List.reverse_eq_nil_iff, List.dropWhile_eq_nil_iff,
      List.mem_reverse, bne_iff_ne]
    rintro c hc rfl
    exact h hc
  simp [directory, hnone]

theorem directory_isPrefix (path : Path) : directory path <+: path := by
  by_cases h : '/' ∈ path
  · obtain ⟨body, last, rfl, hlast⟩ := exists_last_slash h
    obtain ⟨slashes, -, hdirectory⟩ := directory_append body hlast
    refine ⟨slashes ++ last, ?_⟩
    rw [← List.append_assoc, ← hdirectory, List.append_assoc, List.singleton_append]
  · simp [directory_of_slash_not_mem h]

theorem isAbsolute_of_isPrefix {start : Path} (h : start <+: path) (hne : start ≠ [])
    (habsolute : isAbsolute path = true) : isAbsolute start = true := by
  obtain ⟨rest, rfl⟩ := h
  cases start with
  | nil => exact absurd rfl hne
  | cons c start => simpa [isAbsolute] using habsolute

theorem directory_ne_nil (h : '/' ∈ path) : directory path ≠ [] := by
  obtain ⟨body, last, rfl, hlast⟩ := exists_last_slash h
  rw [directory_eq body hlast]
  split
  · simp
  · rename_i hink
    simpa [List.dropWhile_eq_nil_iff] using hink

theorem slash_mem_of_isAbsolute (h : isAbsolute path = true) : '/' ∈ path := by
  cases path with
  | nil => simp [isAbsolute] at h
  | cons c rest => simp_all [isAbsolute]

theorem isAbsolute_directory (h : isAbsolute path = true) : isAbsolute (directory path) = true :=
  isAbsolute_of_isPrefix (directory_isPrefix path) (directory_ne_nil (slash_mem_of_isAbsolute h)) h

/-- The way to the directory part is a start of the way to the path. -/
theorem steps_directory_isPrefix (path : Path) : steps (directory path) <+: steps path := by
  by_cases h : '/' ∈ path
  · obtain ⟨body, last, rfl, hlast⟩ := exists_last_slash h
    obtain ⟨slashes, hslashes, hdirectory⟩ := directory_append body hlast
    refine ⟨steps last, ?_⟩
    have hbody : steps (directory (body ++ '/' :: last)) = steps body := by
      rw [← steps_append_slashes hslashes, ← hdirectory, steps_append_slashes (by simp)]
    rw [hbody, steps_append]
  · rw [directory_of_slash_not_mem h]
    exact List.nil_prefix

end Steps

end DeclDocs.Path
