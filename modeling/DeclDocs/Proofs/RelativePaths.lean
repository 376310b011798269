import DeclDocs.Proofs.PathNames

/-!
The way from one path to another. Going that way from the one comes to the other, whichever of them
lies below the other, and also if neither does. Only the slashes in front have to be the same, since
no way leads from one slash to two.
-/
namespace DeclDocs.Path

open Text

section Slashes

variable {start base path : Path}

theorem isAbsolute_of_rootSlashes {more : Path} (h : rootSlashes path = '/' :: more) :
    isAbsolute path = true := by
  cases path with
  | nil => simp [rootSlashes] at h
  | cons c rest =>
    by_cases hc : c = '/'
    · simp [isAbsolute, hc]
    · simp [rootSlashes, hc] at h

/-- Two slashes count if a third does not follow them. -/
theorem rootSlashes_cons (rest : Path) :
    rootSlashes ('/' :: rest) =
      if isAbsolute rest && !isAbsolute rest.tail then ['/', '/'] else ['/'] := by
  cases rest with
  | nil => rfl
  | cons c rest =>
    by_cases hc : c = '/'
    · cases rest with
      | nil => simp [rootSlashes, isAbsolute, hc]
      | cons d rest => by_cases hd : d = '/' <;> simp [rootSlashes, isAbsolute, hc, hd]
    · simp [rootSlashes, isAbsolute, hc]

/-- The slashes that count are those of a start of the path, unless more of them follow it. -/
theorem rootSlashes_append (rest : Path) (habsolute : isAbsolute start = true)
    (h : start.getLast? ≠ some '/' ∨ isAbsolute rest = false) :
    rootSlashes (start ++ rest) = rootSlashes start := by
  cases start with
  | nil => simp [isAbsolute] at habsolute
  | cons c body =>
    obtain rfl : c = '/' := by simpa [isAbsolute] using habsolute
    rw [List.cons_append, rootSlashes_cons, rootSlashes_cons]
    cases body with
    | nil =>
      have hrest : rest.head? ≠ some '/' := by simpa [isAbsolute] using h
      simp [isAbsolute, hrest]
    | cons d body =>
      cases body with
      | nil =>
        by_cases hd : d = '/'
        · have hrest : rest.head? ≠ some '/' := by simpa [isAbsolute, hd] using h
          simp [isAbsolute, hrest]
        · simp [isAbsolute, hd]
      | cons e body => simp [isAbsolute]

theorem rootSlashes_rootSlashes (path : Path) :
    rootSlashes (rootSlashes path) = rootSlashes path := by
  cases path with
  | nil => rfl
  | cons c rest =>
    by_cases hc : c = '/'
    · rw [hc, rootSlashes_cons]
      split <;> rfl
    · simp [rootSlashes, hc]

theorem rootSlashes_join (hbase : isAbsolute base = true) (h : isAbsolute path = false) :
    rootSlashes (join base path) = rootSlashes base := by
  rw [join, if_neg (by simp [h])]
  split
  · exact rootSlashes_append _ hbase (.inr h)
  · rename_i hend
    exact rootSlashes_append _ hbase (.inl (by simp_all))

theorem rootSlashes_directory (h : isAbsolute path = true) :
    rootSlashes (directory path) = rootSlashes path := by
  have habsolute := isAbsolute_directory h
  obtain ⟨body, last, rfl, hlast⟩ := exists_last_slash (slash_mem_of_isAbsolute h)
  obtain ⟨slashes, -, hdirectory⟩ := directory_append body hlast
  have hpath : directory (body ++ '/' :: last) ++ (slashes ++ last) = body ++ '/' :: last := by
    rw [← List.append_assoc, ← hdirectory, List.append_assoc, List.singleton_append]
  by_cases hslashes : (body ++ ['/']).all (fun c => c == '/') = true
  · -- there are only slashes before the last component, and they stay
    have hbody : directory (body ++ '/' :: last) = body ++ ['/'] := by
      rw [directory_eq body hlast, if_pos hslashes]
    have hwhole := rootSlashes_append last (hbody ▸ habsolute)
      (.inr (isAbsolute_of_slash_not_mem hlast))
    rw [hbody, ← hwhole, List.append_assoc, List.singleton_append]
  · have hend : (directory (body ++ '/' :: last)).getLast? ≠ some '/' := by
      have hhead := List.head?_dropWhile_not (fun c => c == '/') (body ++ ['/']).reverse
      rw [directory_eq body hlast, if_neg hslashes, List.getLast?_reverse]
      intro hslash
      rw [hslash] at hhead
      simp at hhead
    have hwhole := rootSlashes_append (slashes ++ last) habsolute (.inl hend)
    rw [← hwhole, hpath]

theorem getLast?_rootSlashes (h : isAbsolute path = true) :
    (rootSlashes path).getLast? = some '/' := by
  obtain ⟨more, hmore⟩ := exists_rootSlashes h
  obtain ⟨body, c, hbody⟩ :=
    (List.eq_nil_or_concat' (rootSlashes path)).resolve_left (by simp [hmore])
  have hmem : c ∈ rootSlashes path := by simp [hbody]
  simp [hbody, eq_slash_of_mem_rootSlashes hmem]

end Slashes

section Parts

variable {base path name : Path} {parts : List Path}

/-- Components as they stand between slashes: not empty and without a slash. -/
def AreSolid (parts : List Path) : Prop := ∀ part ∈ parts, part ≠ [] ∧ '/' ∉ part

theorem areSolid_names (path : Path) : AreSolid (names path) := by
  intro name hname
  refine ⟨?_, slash_not_mem_of_mem_names hname⟩
  rintro rfl
  exact absurd (isName_of_mem_names hname) (by decide)

theorem AreSolid.isAbsolute_joinParts (h : AreSolid parts) :
    isAbsolute (joinParts parts) = false := by
  cases parts with
  | nil => rfl
  | cons first later =>
    obtain ⟨hne, hslash⟩ := h first List.mem_cons_self
    have hhead : (joinParts (first :: later)).head? = first.head? := by
      cases later with
      | nil => simp [joinParts]
      | cons next later =>
        rw [joinParts, List.intercalate_cons_cons, List.append_assoc,
          List.head?_append_of_ne_nil _ hne]
    have hfirst := isAbsolute_of_slash_not_mem hslash
    rwa [isAbsolute, hhead]

theorem rootSlashes_normalize (h : isAbsolute path = true) :
    rootSlashes (normalize path) = rootSlashes path := by
  obtain ⟨more, hmore⟩ := exists_rootSlashes h
  have habsolute : isAbsolute (rootSlashes path) = true := by rw [hmore]; rfl
  rw [normalize_eq h, rootSlashes_append _ habsolute
    (.inr (areSolid_names path).isAbsolute_joinParts), rootSlashes_rootSlashes]

/-- A normalised path is not changed by normalising it again. -/
theorem normalize_normalize (h : isAbsolute path = true) :
    normalize (normalize path) = normalize path := by
  rw [normalize_eq (isAbsolute_normalize h), rootSlashes_normalize h, names_normalize h,
    normalize_eq h]

theorem joinParts_append_singleton (hne : parts ≠ []) (name : Path) :
    joinParts (parts ++ [name]) = joinParts parts ++ '/' :: name := by
  simp [joinParts, intercalate_append _ hne]

theorem AreSolid.getLast?_joinParts (h : AreSolid parts) (hne : parts ≠ []) :
    ∃ c, (joinParts parts).getLast? = some c ∧ c ≠ '/' := by
  obtain ⟨front, last, rfl⟩ := List.eq_nil_or_concat' parts |>.resolve_left hne
  obtain ⟨hlast, hslash⟩ := h last (by simp)
  obtain ⟨body, c, rfl⟩ := List.eq_nil_or_concat' last |>.resolve_left hlast
  refine ⟨c, ?_, ?_⟩
  · by_cases hfront : front = []
    · simp [hfront, joinParts]
    · rw [joinParts_append_singleton hfront, List.getLast?_append_cons, ← List.cons_append,
        List.getLast?_concat]
  · rintro rfl
    simp at hslash

/-- An entry of a directory with a normalised path has one too. -/
theorem normalize_join (hbase : isAbsolute base = true) (h : normalize base = base)
    (hname : isName name = true) (hslash : '/' ∉ name) :
    normalize (join base name) = join base name := by
  have hrelative := isAbsolute_of_slash_not_mem hslash
  rw [normalize_eq (isAbsolute_join hbase name), rootSlashes_join hbase hrelative,
    names_join hname hslash, join_of_slash_not_mem base hslash]
  rw [normalize_eq hbase] at h
  by_cases hnames : names base = []
  · have hroot : rootSlashes base = base := by simpa [hnames, joinParts] using h
    have hend := getLast?_rootSlashes hbase
    rw [hroot] at hend
    rw [hroot, if_pos (by simp [hend]), hnames]
    simp [joinParts]
  · obtain ⟨c, hlast, hc⟩ := (areSolid_names base).getLast?_joinParts hnames
    have hend : base.getLast? = some c := by rw [← h, List.getLast?_append, hlast, Option.some_or]
    have hne : base ≠ [] := by
      rintro rfl
      simp at hend
    rw [if_neg (by simp [hne, hend, hc]), joinParts_append_singleton hnames, ← List.append_assoc, h]

theorem normalize_foldl_join (hbase : isAbsolute base = true) (h : normalize base = base)
    (hparts : ∀ part ∈ parts, isName part = true ∧ '/' ∉ part) :
    normalize (parts.foldl join base) = parts.foldl join base ∧
      rootSlashes (parts.foldl join base) = rootSlashes base := by
  induction parts generalizing base with
  | nil => exact ⟨h, rfl⟩
  | cons part parts ih =>
    obtain ⟨⟨hname, hslash⟩, hlater⟩ := List.forall_mem_cons.mp hparts
    obtain ⟨hnormal, hslashes⟩ := ih (isAbsolute_join hbase part)
      (normalize_join hbase h hname hslash) hlater
    refine ⟨hnormal, hslashes.trans ?_⟩
    exact rootSlashes_join hbase (isAbsolute_of_slash_not_mem hslash)

end Parts

section Ways

variable {base target path : Path} {parts kept : List Path}

theorem solidComponents_normalize (h : isAbsolute path = true) :
    solidComponents (normalize path) = names path := by
  obtain ⟨empty, hcomponents, hempty⟩ := components_normalize h
  have hnames : ∀ name ∈ names path, name.isEmpty = false := fun name hname => by
    simpa using (areSolid_names path name hname).1
  rw [solidComponents, hcomponents, List.filter_append,
    List.filter_eq_nil_iff.mpr (by simpa using hempty),
    List.filter_eq_self.mpr (by simpa using hnames), List.nil_append]

/-- What is left of two lists stands behind what they have in common. -/
theorem exists_dropCommon (first second : List Path) :
    ∃ common, first = common ++ (dropCommon first second).1 ∧
      second = common ++ (dropCommon first second).2 := by
  fun_induction dropCommon first second with
  | case1 as a bs ih =>
    obtain ⟨common, hfirst, hsecond⟩ := ih
    exact ⟨a :: common, congrArg (a :: ·) hfirst, congrArg (a :: ·) hsecond⟩
  | case2 a as b bs hne => exact ⟨[], rfl, rfl⟩
  | case3 as bs hcases => exact ⟨[], rfl, rfl⟩

/-- As many double dots as there are names take them all back. -/
theorem foldl_parentMark {front : List Path} (h : ∀ name ∈ front ++ kept, isName name = true) :
    (List.replicate front.length parentMark).foldl (reduceStep true) (front ++ kept) = kept := by
  induction front with
  | nil => rfl
  | cons name front ih =>
    rw [List.length_cons, List.replicate_succ, List.foldl_cons, reduceStep_parentMark h]
    exact ih fun other hother => h other (List.mem_cons_of_mem name hother)

theorem foldl_names (h : ∀ name ∈ parts, isName name = true) :
    parts.foldl (reduceStep true) kept = parts.reverse ++ kept := by
  have hparent : parentMark ∉ parts := fun hmem => ne_parentMark_of_isName (h _ hmem) rfl
  rw [foldl_reduceStep_eq hparent, List.filter_eq_self.mpr]
  exact fun name hname => by simp [isTrivial_eq_false_of_isName (h name hname)]

/-- The components of a way, which is a dot if it leads nowhere. -/
theorem AreSolid.foldl_components (h : AreSolid parts) :
    (components (orDot (joinParts parts))).foldl (reduceStep true) kept =
      parts.foldl (reduceStep true) kept := by
  cases parts with
  | nil => rfl
  | cons first later =>
    have hne : joinParts (first :: later) ≠ [] := by
      obtain ⟨c, hlast, -⟩ := h.getLast?_joinParts (by simp)
      rintro hnil
      simp [hnil] at hlast
    rw [orDot, if_neg (by simpa using hne),
      components_joinParts (by simp) fun part hpart => (h part hpart).2]

theorem AreSolid.isAbsolute_orDot (h : AreSolid parts) :
    isAbsolute (orDot (joinParts parts)) = false := by
  unfold orDot
  split
  · rfl
  · exact h.isAbsolute_joinParts

/-- The way to a path goes back to what it has in common with the start, and then ahead. -/
theorem exists_way (hbase : isAbsolute base = true) (htarget : isAbsolute target = true) :
    ∃ common back ahead, names base = common ++ back ∧ names target = common ++ ahead ∧
      relative (normalize target) (normalize base) =
        orDot (joinParts (List.replicate back.length parentMark ++ ahead)) := by
  obtain ⟨common, hback, hahead⟩ := exists_dropCommon (names base) (names target)
  refine ⟨common, _, _, hback, hahead, ?_⟩
  simp only [relative, solidComponents_normalize hbase, solidComponents_normalize htarget,
    List.map_const']

/-- Going the way to a path from where it starts comes to the path. -/
theorem absolute_relative (hbase : isAbsolute base = true) (htarget : isAbsolute target = true)
    (hslashes : rootSlashes base = rootSlashes target) :
    absolute base (relative (normalize target) (normalize base)) = normalize target := by
  obtain ⟨common, back, ahead, hback, hahead, hway⟩ := exists_way hbase htarget
  have hbackNames : ∀ name ∈ back.reverse ++ common.reverse, isName name = true := by
    intro name hname
    have hmem : name ∈ names base := by
      rw [hback]
      simpa [or_comm] using hname
    exact isName_of_mem_names hmem
  have haheadMem : ∀ name ∈ ahead, name ∈ names target := by
    intro name hname
    rw [hahead]
    exact List.mem_append_right common hname
  have hsolid : AreSolid (List.replicate back.length parentMark ++ ahead) := by
    intro part hpart
    rcases List.mem_append.mp hpart with hmark | hpart
    · rw [(List.mem_replicate.mp hmark).2]
      decide
    · exact areSolid_names target part (haheadMem part hpart)
  -- the double dots take back what only the start has, and then come the names that it lacks
  have hgone := foldl_parentMark hbackNames
  rw [List.length_reverse] at hgone
  have hnames : names (join base
      (orDot (joinParts (List.replicate back.length parentMark ++ ahead)))) = names target := by
    rw [names_join_of_relative base hsolid.isAbsolute_orDot, hsolid.foldl_components,
      List.foldl_append, hback, List.reverse_append, hgone,
      foldl_names fun name hname => isName_of_mem_names (haheadMem name hname),
      List.reverse_append, List.reverse_reverse, List.reverse_reverse, hahead]
  rw [hway, absolute, normalize_eq (isAbsolute_join hbase _),
    rootSlashes_join hbase hsolid.isAbsolute_orDot, hnames, hslashes, normalize_eq htarget]

end Ways

end DeclDocs.Path
