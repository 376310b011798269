import DeclDocs.Files.Store
import DeclDocs.Proofs.PathNames

/-!
What is found in a directory tree after something was put into it: the new tree at its own place,
directories on the way to it, and what was there before everywhere else. From this follows what a
store answers after directories were made and files were written: a path is looked up along its
names, and nothing changes but at the starts of the names that were written to.
-/
namespace DeclDocs

namespace FileTree

variable {tree new : FileTree} {place names : List Path}

theorem find?_append (place names : List Path) (tree : FileTree) :
    tree.find? (place ++ names) = (tree.find? place).bind (find? names) := by
  induction place generalizing tree with
  | nil => rfl
  | cons name place ih =>
    simp only [List.cons_append, find?, Option.bind_assoc]
    exact congrArg _ (funext fun child => ih child)

theorem find?_putEntry (name other : Path) (tree : FileTree) (entries : List (Path × FileTree)) :
    (putEntry name tree entries).find? (fun e => e.1 == other) =
      if other = name then some (name, tree) else entries.find? fun e => e.1 == other := by
  induction entries with
  | nil =>
    by_cases h : other = name
    · simp [putEntry, h]
    · simp [putEntry, h, Ne.symm h]
  | cons entry entries ih =>
    obtain ⟨n, e⟩ := entry
    unfold putEntry
    by_cases hn : n = name
    · by_cases h : other = name
      · simp [hn, h]
      · simp [hn, h, Ne.symm h]
    · by_cases hother : n = other
      · have h : other ≠ name := fun heq => hn (hother.trans heq)
        simp [hother, h]
      · simp [hn, hother, ih]

/-- The entries of a directory after something was put below the entry of that name. -/
theorem child?_put (tree new : FileTree) (name other : Path) (place : List Path) :
    (tree.put (name :: place) new).child? other =
      if other = name then some (((tree.child? name).getD (.directory [])).put place new)
      else tree.child? other := by
  cases tree with
  | file octets =>
    by_cases h : other = name
    · simp [put, child?, h]
    · simp [put, child?, h, Ne.symm h]
  | directory entries =>
    simp only [put, child?, find?_putEntry]
    split
    · rfl
    · rfl

theorem find?_put_self (tree new : FileTree) (place : List Path) :
    (tree.put place new).find? place = some new := by
  induction place generalizing tree with
  | nil => simp [put, find?]
  | cons name place ih => simp [find?, child?_put, ih]

theorem isDirectory_put (tree new : FileTree) (name : Path) (place : List Path) :
    (tree.put (name :: place) new).isDirectory = true := by
  cases tree with
  | file octets => rfl
  | directory entries => rfl

/-- Directories stand on the way to what was put into a tree. -/
theorem find?_put_on_way (tree new : FileTree) (names : List Path) (name : Path)
    (rest : List Path) :
    ((tree.put (names ++ name :: rest) new).find? names).any isDirectory = true := by
  induction names generalizing tree with
  | nil => simpa [find?] using isDirectory_put tree new name rest
  | cons first names ih => simpa [find?, child?_put] using ih _

/-- Nothing changes off the way to what was put into a tree, if there is nothing below its place
before and after. -/
theorem find?_put_off_way (hnew : ∀ name, new.child? name = none)
    (hold : ∀ name, tree.find? (place ++ [name]) = none) (h : ¬ names <+: place) :
    (tree.put place new).find? names = tree.find? names := by
  induction place generalizing tree names with
  | nil =>
    cases names with
    | nil => exact absurd List.nil_prefix h
    | cons name names =>
      have hname : tree.child? name = none := by simpa [find?] using hold name
      simp [put, find?, hnew, hname]
  | cons first place ih =>
    cases names with
    | nil => exact absurd List.nil_prefix h
    | cons name names =>
      simp only [find?, child?_put]
      by_cases hname : name = first
      · subst hname
        have hrest : ¬ names <+: place := fun hrest => h (by simpa using hrest)
        cases hchild : tree.child? name with
        | some child =>
          have hbelow : ∀ n, child.find? (place ++ [n]) = none := by
            intro n
            simpa [find?, hchild] using hold n
          simpa using ih hbelow hrest
        | none =>
          -- The directories made on the way hold nothing but that way.
          have hempty : ∀ n ns, (FileTree.directory []).find? (n :: ns) = none := by
            intro n ns
            rfl
          have hbelow : ∀ n, (FileTree.directory []).find? (place ++ [n]) = none := by
            intro n
            cases place with
            | nil => rfl
            | cons _ _ => rfl
          have hput := ih hbelow hrest
          cases names with
          | nil => exact absurd List.nil_prefix hrest
          | cons n ns => simpa [hempty] using hput
      · simp [hname]

/-- There is nothing below what is not a directory. -/
theorem find?_below (h : (tree.find? place).any isDirectory = false) (name : Path) :
    tree.find? (place ++ [name]) = none := by
  rw [find?_append]
  cases hplace : tree.find? place with
  | none => rfl
  | some found =>
    cases found with
    | file octets => rfl
    | directory entries => simp [hplace, isDirectory] at h

/-- What is found in a tree is found in one that has grown from it, files perhaps changed. -/
structure Grows (tree grown : FileTree) : Prop where
  present : ∀ names, (tree.find? names).isSome = true → (grown.find? names).isSome = true
  directory : ∀ names, (tree.find? names).any isDirectory = true →
    (grown.find? names).any isDirectory = true

theorem grows_put_file (octets : List UInt8) (h : (tree.find? place).any isDirectory = false) :
    Grows tree (tree.put place (.file octets)) := by
  have hoff : ∀ names, ¬ names <+: place →
      (tree.put place (.file octets)).find? names = tree.find? names := fun names hnames =>
    find?_put_off_way (fun _ => rfl) (find?_below h) hnames
  constructor
  · intro names hnames
    by_cases hway : names <+: place
    · obtain ⟨rest, rfl⟩ := hway
      cases rest with
      | nil => simp [find?_put_self]
      | cons name rest =>
        have hdirectory := find?_put_on_way tree (.file octets) names name rest
        exact Option.isSome_of_any hdirectory
    · rwa [hoff names hway]
  · intro names hnames
    by_cases hway : names <+: place
    · obtain ⟨rest, rfl⟩ := hway
      cases rest with
      | nil =>
        rw [List.append_nil] at h
        exact absurd hnames (by simp [h])
      | cons name rest => exact find?_put_on_way tree (.file octets) names name rest
    · rwa [hoff names hway]

mutual

def isNamed : FileTree → Bool
  | .file _ => true
  | .directory entries => areNamed entries

def areNamed : List (Path × FileTree) → Bool
  | [] => true
  | (name, tree) :: rest =>
      Path.isName name && !name.contains '/' && tree.isNamed && areNamed rest

end

theorem areNamed_iff {entries : List (Path × FileTree)} :
    areNamed entries = true ↔ ∀ entry ∈ entries,
      Path.isName entry.1 = true ∧ '/' ∉ entry.1 ∧ entry.2.isNamed = true := by
  induction entries with
  | nil => simp [areNamed]
  | cons first entries ih => simp [areNamed, ih, and_assoc]

theorem isNamed_of_mem {entries : List (Path × FileTree)} (hnamed : areNamed entries = true)
    {entry : Path × FileTree} (h : entry ∈ entries) : entry.2.isNamed = true :=
  (areNamed_iff.mp hnamed entry h).2.2

/-- What a directory hands down to its entries, a tree hands down to all that is found in it. -/
theorem inherits_of_find? {P : FileTree → Prop}
    (hentry : ∀ entries, P (.directory entries) → ∀ entry ∈ entries, P entry.2) (htree : P tree)
    {found : FileTree} (h : tree.find? names = some found) : P found := by
  induction names generalizing tree with
  | nil =>
    obtain rfl := Option.some.inj h
    exact htree
  | cons name names ih =>
    obtain ⟨child, hchild, hfound⟩ := Option.bind_eq_some_iff.mp h
    cases tree with
    | file octets => simp [child?] at hchild
    | directory entries =>
      obtain ⟨entry, hmem, rfl⟩ := Option.map_eq_some_iff.mp hchild
      exact ih (hentry entries htree entry (List.mem_of_find?_eq_some hmem)) hfound

theorem isNamed_of_find? (hnamed : tree.isNamed = true) {found : FileTree}
    (h : tree.find? names = some found) : found.isNamed = true :=
  inherits_of_find? (P := fun tree => tree.isNamed = true)
    (fun _ hentries _ hmem => isNamed_of_mem hentries hmem) hnamed h

/-- A file that was found lies below the directory that was searched. -/
theorem names_of_mem_searchEntries {enter accept : Path → Bool} {base file : Path}
    {entries : List (Path × FileTree)} (hnamed : areNamed entries = true)
    (hbase : Path.isAbsolute base = true) (h : file ∈ searchEntries enter accept base entries) :
    Path.isAbsolute file = true ∧ Path.names base <+: Path.names file := by
  fun_induction searchEntries enter accept base entries with
  | case1 => simp at h
  | case2 base name octets rest ih =>
    simp only [areNamed, Bool.and_eq_true, Bool.not_eq_true'] at hnamed
    rcases List.mem_append.mp h with hfirst | hlater
    · obtain rfl : file = Path.join base name := by simp_all
      rw [Path.names_join hnamed.1.1.1 (by simpa using hnamed.1.1.2)]
      exact ⟨Path.isAbsolute_join hbase name, List.prefix_append _ _⟩
    · exact ih hnamed.2 hbase hlater
  | case3 base name entries rest ihEntries ihRest =>
    simp only [areNamed, isNamed, Bool.and_eq_true, Bool.not_eq_true'] at hnamed
    rcases List.mem_append.mp h with hinner | hlater
    · have hfile : file ∈ searchEntries enter accept (Path.join base name) entries := by
        simp_all
      obtain ⟨habsolute, hnames⟩ := ihEntries hnamed.1.2 (Path.isAbsolute_join hbase name) hfile
      rw [Path.names_join hnamed.1.1.1 (by simpa using hnamed.1.1.2)] at hnames
      exact ⟨habsolute, List.IsPrefix.trans (List.prefix_append _ _) hnames⟩
    · exact ihRest hnamed.2 hbase hlater

end FileTree

namespace Store

open DeclDocs.Path (isName isTrivial parentMark reduceStep)

section Following

variable {root grown : FileTree} {place parts reached : List Path}

/-- One component, with the entries seen through what is found. -/
theorem follow_cons (root : FileTree) (place : List Path) (component : Path) (rest : List Path) :
    follow root place (component :: rest) =
      if (root.find? place).any FileTree.isDirectory then
        if isTrivial component then follow root place rest
        else if component == parentMark then follow root place.dropLast rest
        else if (root.find? (place ++ [component])).isSome then
          follow root (place ++ [component]) rest
        else .error .noEntry
      else .error .notDirectory := by
  rw [follow, FileTree.find?_append]
  cases hplace : root.find? place with
  | none => rfl
  | some tree =>
    cases tree with
    | file octets => rfl
    | directory entries =>
      have hentry : (entries.any fun e => e.1 == component) =
          ((FileTree.directory entries).find? [component]).isSome := by
        rw [Bool.eq_iff_iff]
        simp [FileTree.find?, FileTree.child?]
      simp only [Option.bind_some, FileTree.isDirectory, Option.any_some, if_true, hentry]

theorem follow_append (root : FileTree) (place first second : List Path) :
    follow root place (first ++ second) =
      (follow root place first).bind fun reached => follow root reached second := by
  induction first generalizing place with
  | nil => rfl
  | cons component first ih =>
    rw [List.cons_append, follow_cons, follow_cons]
    simp only [ih]
    split_ifs <;> rfl

theorem follow_trivial {trivial : List Path} (htrivial : ∀ c ∈ trivial, isTrivial c = true)
    (hplace : (root.find? place).any FileTree.isDirectory = true) :
    follow root place (trivial ++ parts) = follow root place parts := by
  induction trivial with
  | nil => rfl
  | cons component trivial ih =>
    rw [List.cons_append, follow_cons, if_pos hplace, if_pos (htrivial _ List.mem_cons_self)]
    exact ih fun c hc => htrivial c (List.mem_cons_of_mem _ hc)

/-- Names are followed to what they lead to. -/
theorem find?_follow (root : FileTree) (place : List Path)
    (hparts : ∀ c ∈ parts, isName c = true) :
    (follow root place parts).toOption.bind (fun reached => root.find? reached) =
      root.find? (place ++ parts) := by
  induction parts generalizing place with
  | nil => simp [follow, Except.toOption]
  | cons component parts ih =>
    have hname := hparts component List.mem_cons_self
    have hnext := ih (place ++ [component]) fun c hc => hparts c (List.mem_cons_of_mem _ hc)
    have hfirst : place ++ component :: parts = place ++ [component] ++ parts := by simp
    rw [follow_cons, hfirst]
    by_cases hplace : (root.find? place).any FileTree.isDirectory = true
    · rw [if_pos hplace, if_neg (by simp [Path.isTrivial_eq_false_of_isName hname]),
        if_neg (by simpa using Path.ne_parentMark_of_isName hname)]
      by_cases hentry : (root.find? (place ++ [component])).isSome = true
      · rw [if_pos hentry, hnext]
      · rw [if_neg hentry, FileTree.find?_append, Option.not_isSome_iff_eq_none.mp hentry]
        rfl
    · rw [if_neg hplace, FileTree.find?_append, FileTree.find?_below (by simpa using hplace)]
      rfl

/-- What a step to the next place can be. -/
theorem follow_cons_eq_ok {component : Path} :
    follow root place (component :: parts) = .ok reached ↔
      (root.find? place).any FileTree.isDirectory = true ∧
        (isTrivial component = true ∧ follow root place parts = .ok reached ∨
          component = parentMark ∧ follow root place.dropLast parts = .ok reached ∨
          isName component = true ∧ (root.find? (place ++ [component])).isSome = true ∧
            follow root (place ++ [component]) parts = .ok reached) := by
  rw [follow_cons]
  by_cases hplace : (root.find? place).any FileTree.isDirectory = true
  · by_cases htrivial : isTrivial component = true
    · have hparent := Path.ne_parentMark_of_isTrivial htrivial
      simp [hplace, htrivial, hparent, isName]
    · by_cases hparent : component = parentMark
      · simp [hplace, hparent, isName, isTrivial, parentMark]
      · by_cases hentry : (root.find? (place ++ [component])).isSome = true
        · simp [hplace, htrivial, hparent, hentry, isName]
        · simp [hplace, htrivial, hparent, hentry, isName]
  · simp [hplace]

/-- The place that is reached has the names that are left of the components. -/
theorem eq_of_follow_eq_ok (h : follow root place parts = .ok reached)
    (hplace : ∀ name ∈ place, isName name = true) :
    reached = (parts.foldl (reduceStep true) place.reverse).reverse := by
  induction parts generalizing place with
  | nil =>
    obtain rfl : place = reached := by simpa [follow] using h
    simp
  | cons component parts ih =>
    rw [List.foldl_cons]
    rcases (follow_cons_eq_ok.mp h).2 with ⟨htrivial, hrest⟩ | ⟨rfl, hrest⟩ | ⟨hname, -, hrest⟩
    · rw [Path.reduceStep_of_isTrivial htrivial]
      exact ih hrest hplace
    · rw [Path.reduceStep_parentMark (by simpa using hplace), List.tail_reverse]
      exact ih hrest fun name hname => hplace name (List.dropLast_subset place hname)
    · rw [Path.reduceStep_of_isName hname]
      have hnext := ih hrest (by simpa [or_imp, forall_and] using ⟨hplace, hname⟩)
      simpa using hnext

theorem follow_grows (hgrows : FileTree.Grows root grown)
    (h : follow root place parts = .ok reached) : follow grown place parts = .ok reached := by
  induction parts generalizing place with
  | nil => exact h
  | cons component parts ih =>
    obtain ⟨hdirectory, hstep⟩ := follow_cons_eq_ok.mp h
    refine follow_cons_eq_ok.mpr ⟨hgrows.directory place hdirectory, ?_⟩
    rcases hstep with ⟨htrivial, hrest⟩ | ⟨hparent, hrest⟩ | ⟨hname, hentry, hrest⟩
    · exact Or.inl ⟨htrivial, ih hrest⟩
    · exact Or.inr (Or.inl ⟨hparent, ih hrest⟩)
    · exact Or.inr (Or.inr ⟨hname, hgrows.present _ hentry, ih hrest⟩)

end Following

def names (s : Store) (path : Path) : List Path :=
  Path.names (Path.join s.workingDirectory path)

/-- A store as there can be one: it starts at a directory, all entries have proper names, and the
working directory is an absolute path. -/
structure IsProper (s : Store) : Prop where
  rooted : Path.isAbsolute s.workingDirectory = true
  directory : s.root.isDirectory = true
  named : s.root.isNamed = true

section Looking

variable {s : Store} {path : Path}

theorem names_absolute (h : Path.isAbsolute s.workingDirectory = true) (path : Path) :
    Path.names (s.absolute path) = s.names path :=
  Path.names_normalize (Path.isAbsolute_join h path)

theorem isAbsolute_absolute (h : Path.isAbsolute s.workingDirectory = true) (path : Path) :
    Path.isAbsolute (s.absolute path) = true :=
  Path.isAbsolute_normalize (Path.isAbsolute_join h path)

theorem lookup?_eq (s : Store) (path : Path) :
    s.lookup? path = (s.locate path).toOption.bind fun names => s.root.find? names := by
  unfold lookup? lookup
  cases s.locate path with
  | error refusal => rfl
  | ok names =>
    simp only [bind, Except.bind, Except.toOption, Option.bind_some]
    cases s.root.find? names with
    | none => rfl
    | some tree => rfl

/-- An absolute path is looked up along its names. -/
theorem lookup?_absolute (hrooted : Path.isAbsolute s.workingDirectory = true)
    (hdirectory : s.root.isDirectory = true) (path : Path) :
    s.lookup? (s.absolute path) = s.root.find? (s.names path) := by
  have habsolute := isAbsolute_absolute hrooted path
  have hne : (s.absolute path).isEmpty = false := by
    cases h : s.absolute path with
    | nil => simp [h, Path.isAbsolute] at habsolute
    | cons c rest => rfl
  have hjoin : Path.join s.workingDirectory (s.absolute path) = s.absolute path := by
    simp [Path.join, habsolute]
  obtain ⟨empty, hcomponents, hempty⟩ :=
    Path.components_normalize (Path.isAbsolute_join hrooted path)
  have htrivial : ∀ component ∈ empty, Path.isTrivial component = true :=
    fun component hmem => Path.isTrivial_of_eq_nil (hempty component hmem)
  have hroot : (s.root.find? []).any FileTree.isDirectory = true := by
    simpa [FileTree.find?] using hdirectory
  rw [lookup?_eq, locate, if_neg (by simp [hne]), hjoin, absolute, Path.absolute, hcomponents,
    follow_trivial htrivial hroot, find?_follow s.root [] fun c hc => Path.isName_of_mem_names hc]
  rfl

theorem isFile_eq_true_iff :
    s.isFile path = true ↔ ∃ octets, s.lookup? path = some (.file octets) := by
  unfold isFile
  cases s.lookup? path with
  | none => simp
  | some tree =>
    cases tree with
    | file octets => simp [FileTree.isFile]
    | directory entries => simp [FileTree.isFile]

/-- The files that can be read are those that are there. -/
theorem read_eq_ok_iff {octets : List UInt8} :
    s.read path = .ok octets ↔ s.lookup? path = some (.file octets) := by
  unfold read lookup?
  cases s.lookup path with
  | error refusal => simp [Except.toOption]
  | ok tree =>
    cases tree with
    | file octets => simp [Except.toOption]
    | directory entries => simp [Except.toOption]

theorem names_of_isAbsolute (h : Path.isAbsolute path = true) : s.names path = Path.names path := by
  rw [names, Path.join, if_pos h]

theorem names_of_absolute (h : Path.isAbsolute s.workingDirectory = true) (path : Path) :
    s.names (s.absolute path) = s.names path := by
  rw [names_of_isAbsolute (isAbsolute_absolute h path), names_absolute h]

end Looking

section Writing

variable {s t : Store} {path name : Path} {around : List Path} {slashed : Bool}

def parts (s : Store) (path : Path) : List Path :=
  Path.components (Path.join s.workingDirectory path)

def solidStart (parts : List Path) : List Path := (parts.reverse.dropWhile List.isEmpty).reverse

theorem exists_empties (parts : List Path) :
    ∃ empties, parts = solidStart parts ++ empties ∧ ∀ part ∈ empties, part = [] := by
  refine ⟨(parts.reverse.takeWhile List.isEmpty).reverse, ?_, ?_⟩
  · rw [solidStart, ← List.reverse_append, List.takeWhile_append_dropWhile, List.reverse_reverse]
  · intro part hpart
    simpa using List.mem_takeWhile_imp (List.mem_reverse.mp hpart)

/-- What makes up a place with a name. -/
theorem place_eq_ok_iff : s.place path = .ok ⟨around, some name, slashed⟩ ↔
    path ≠ [] ∧ follow s.root [] (solidStart (s.parts path)).dropLast = .ok around ∧
      (s.root.find? around).any FileTree.isDirectory = true ∧ isName name = true ∧
      (solidStart (s.parts path)).getLast?.getD [] = name ∧
      decide ((solidStart (s.parts path)).length < (s.parts path).length) = slashed := by
  simp only [place]
  rw [← parts, ← solidStart, ← isName]
  by_cases hne : path = []
  · simp [hne]
  · cases hfollow : follow s.root [] (solidStart (s.parts path)).dropLast with
    | error refusal => simp [hne]
    | ok reached =>
      by_cases hdirectory : (s.root.find? reached).any FileTree.isDirectory = true
      · simp only [hne, hdirectory, List.isEmpty_iff, if_false, Bool.not_true, Bool.false_eq_true,
          Except.ok.injEq, Place.mk.injEq, Option.ite_none_right_eq_some, Option.some.injEq]
        constructor
        · rintro ⟨rfl, ⟨hname, rfl⟩, hslashed⟩
          exact ⟨hne, rfl, hdirectory, hname, rfl, hslashed⟩
        · rintro ⟨-, haround, -, hname, rfl, hslashed⟩
          exact ⟨haround, ⟨hname, rfl⟩, hslashed⟩
      · simp only [hne, hdirectory, List.isEmpty_iff, if_false]
        grind

/-- The components of a path to a place are those that lead to the directory, the name, and empty
ones for the slashes behind it. -/
theorem exists_parts_of_place (h : s.place path = .ok ⟨around, some name, slashed⟩) :
    ∃ body empties, s.parts path = body ++ name :: empties ∧ (∀ part ∈ empties, part = []) ∧
      follow s.root [] body = .ok around ∧ (slashed = false → empties = []) := by
  obtain ⟨-, hfollow, -, hname, hlast, hslashed⟩ := place_eq_ok_iff.mp h
  obtain ⟨empties, hparts, hempties⟩ := exists_empties (s.parts path)
  have hsolid : solidStart (s.parts path) ≠ [] := by
    intro hnil
    rw [hnil] at hlast
    simp [← hlast, isName, isTrivial] at hname
  have hsplit : (solidStart (s.parts path)).dropLast ++ [name] = solidStart (s.parts path) := by
    rw [List.getLast?_eq_some_getLast hsolid, Option.getD_some] at hlast
    rw [← hlast]
    exact List.dropLast_append_getLast hsolid
  refine ⟨_, empties, ?_, hempties, hfollow, ?_⟩
  · rw [List.append_cons, hsplit]
    exact hparts
  · intro hunslashed
    have hlength := (congrArg List.length hparts).trans List.length_append
    rw [hunslashed, decide_eq_false_iff_not] at hslashed
    rw [← List.length_eq_zero_iff]
    omega

/-- A new entry is made at the names that its path leads along. -/
theorem names_of_place (h : s.place path = .ok ⟨around, some name, slashed⟩) :
    around ++ [name] = s.names path := by
  obtain ⟨-, -, -, hname, -, -⟩ := place_eq_ok_iff.mp h
  obtain ⟨body, empties, hparts, hempties, hbody, -⟩ := exists_parts_of_place h
  have haround : around = Path.reduce true body := eq_of_follow_eq_ok hbody (by simp)
  have hempty : ∀ part ∈ empties, isTrivial part = true := by
    intro part hpart
    rw [hempties part hpart]
    rfl
  have hparts : s.parts path = body ++ [name] ++ empties := by simpa using hparts
  rw [names, Path.names, ← parts, hparts, Path.reduce_append_trivial _ hempty,
    Path.reduce_append_name _ hname, ← haround]

theorem makeDirectory_eq_ok (h : s.makeDirectory path = .ok t) :
    s.root.find? (s.names path) = none ∧
      t = { s with root := s.root.put (s.names path) (.directory []) } := by
  unfold makeDirectory at h
  split at h
  · simp at h
  · simp at h
  · rename_i around name slashed hplace
    rw [names_of_place hplace] at h
    split at h
    · simp at h
    · rename_i habsent
      exact ⟨by simpa using habsent, (Except.ok.inj h).symm⟩

theorem write_eq_ok {octets : List UInt8} (h : s.write path octets = .ok t) :
    ∃ around name, s.place path = .ok ⟨around, some name, false⟩ ∧
      (s.root.find? (s.names path)).any FileTree.isDirectory = false ∧
      t = { s with root := s.root.put (s.names path) (.file octets) } := by
  unfold write at h
  split at h
  · simp at h
  · simp at h
  · rename_i around name slashed hplace
    rw [names_of_place hplace] at h
    split at h
    · simp at h
    · rename_i hfree
      simp only [Bool.or_eq_true, not_or, Bool.not_eq_true] at hfree
      obtain ⟨rfl, hfree⟩ := hfree
      exact ⟨around, name, hplace, hfree, (Except.ok.inj h).symm⟩

theorem write_of_place {octets : List UInt8}
    (hplace : s.place path = .ok ⟨around, some name, false⟩)
    (hfree : (s.root.find? (s.names path)).any FileTree.isDirectory = false) :
    s.write path octets = .ok { s with root := s.root.put (s.names path) (.file octets) } := by
  simp only [write, hplace, names_of_place hplace, hfree]
  rfl

theorem place_grows (hgrows : FileTree.Grows s.root t.root)
    (hworking : t.workingDirectory = s.workingDirectory)
    (h : s.place path = .ok ⟨around, some name, slashed⟩) :
    t.place path = .ok ⟨around, some name, slashed⟩ := by
  have hparts : t.parts path = s.parts path := by rw [parts, parts, hworking]
  obtain ⟨hne, hfollow, hdirectory, hname⟩ := place_eq_ok_iff.mp h
  rw [place_eq_ok_iff, hparts]
  exact ⟨hne, follow_grows hgrows hfollow, hgrows.directory around hdirectory, hname⟩

/-- A file is read where its path leads. -/
theorem read_of_place {octets : List UInt8}
    (hplace : s.place path = .ok ⟨around, some name, false⟩)
    (hfile : s.root.find? (s.names path) = some (.file octets)) : s.read path = .ok octets := by
  obtain ⟨hne, -, hdirectory, hname, -, -⟩ := place_eq_ok_iff.mp hplace
  obtain ⟨body, empties, hparts, -, hbody, hslashed⟩ := exists_parts_of_place hplace
  obtain rfl := hslashed rfl
  rw [← names_of_place hplace] at hfile
  have hlocate : s.locate path = .ok (around ++ [name]) := by
    rw [locate, if_neg (by simpa using hne), ← parts, hparts, follow_append, hbody]
    exact follow_cons_eq_ok.mpr ⟨hdirectory, Or.inr (Or.inr ⟨hname, by simp [hfile], rfl⟩)⟩
  simp [read, lookup, hlocate, hfile, bind, Except.bind]

theorem isDirectory_of_place (h : s.place path = .ok ⟨around, some name, slashed⟩) :
    s.root.isDirectory = true := by
  obtain ⟨-, -, hdirectory, -⟩ := place_eq_ok_iff.mp h
  cases hroot : s.root with
  | directory entries => rfl
  | file octets =>
    rw [hroot] at hdirectory
    cases around with
    | nil => simpa [FileTree.find?] using hdirectory
    | cons first rest => simp [FileTree.find?, FileTree.child?] at hdirectory

/-- A file that was written stands where its path leads, and can be written there again. -/
theorem place_of_write {octets : List UInt8} (h : s.write path octets = .ok t) :
    ∃ around name, t.place path = .ok ⟨around, some name, false⟩ ∧
      t.root.find? (t.names path) = some (.file octets) := by
  obtain ⟨around, name, hplace, hfree, rfl⟩ := write_eq_ok h
  refine ⟨around, name, ?_, FileTree.find?_put_self _ _ _⟩
  exact place_grows (FileTree.grows_put_file octets hfree) rfl hplace

theorem read_of_write {octets : List UInt8} (h : s.write path octets = .ok t) :
    t.read path = .ok octets := by
  obtain ⟨around, name, hplace, hfile⟩ := place_of_write h
  exact read_of_place hplace hfile

theorem exists_write_again {octets : List UInt8} (h : s.write path octets = .ok t)
    (others : List UInt8) : ∃ u, t.write path others = .ok u := by
  obtain ⟨around, name, hplace, hfile⟩ := place_of_write h
  exact ⟨_, write_of_place hplace (by simp [hfile, FileTree.isDirectory])⟩

end Writing

/-- Two stores that differ at most on the way to a place. -/
structure AgreesOff (place : List Path) (s t : Store) : Prop where
  workingDirectory : t.workingDirectory = s.workingDirectory
  find?_eq : ∀ names, ¬ names <+: place → t.root.find? names = s.root.find? names

section Agreeing

variable {s t u : Store} {path : Path} {place : List Path}

theorem AgreesOff.refl (place : List Path) (s : Store) : AgreesOff place s s :=
  ⟨rfl, fun _ _ => rfl⟩

theorem AgreesOff.trans (h : AgreesOff place s t) (h' : AgreesOff place t u) :
    AgreesOff place s u where
  workingDirectory := h'.workingDirectory.trans h.workingDirectory
  find?_eq names hnames := (h'.find?_eq names hnames).trans (h.find?_eq names hnames)

/-- Putting something without entries where there is no directory changes nothing off the way. -/
theorem agreesOff_put {new : FileTree} {target : List Path} (hnew : ∀ name, new.child? name = none)
    (hold : (s.root.find? target).any FileTree.isDirectory = false) (hway : target <+: place) :
    AgreesOff place s { s with root := s.root.put target new } where
  workingDirectory := rfl
  find?_eq names hnames := by
    apply FileTree.find?_put_off_way hnew (FileTree.find?_below hold)
    exact fun hnear => hnames (List.IsPrefix.trans hnear hway)

theorem agreesOff_makeDirectory (h : s.makeDirectory path = .ok t)
    (hway : s.names path <+: place) : AgreesOff place s t := by
  obtain ⟨habsent, rfl⟩ := makeDirectory_eq_ok h
  exact agreesOff_put (fun _ => rfl) (by simp [habsent]) hway

theorem agreesOff_write {octets : List UInt8} (h : s.write path octets = .ok t) :
    AgreesOff (s.names path) s t := by
  obtain ⟨around, name, -, hfree, rfl⟩ := write_eq_ok h
  exact agreesOff_put (fun _ => rfl) hfree List.prefix_rfl

theorem agreesOff_ensureDirectory (hway : s.names path <+: place) :
    AgreesOff place s (s.ensureDirectory path).1 := by
  unfold ensureDirectory
  split
  · rename_i made hmade
    exact agreesOff_makeDirectory hmade hway
  · split
    · exact AgreesOff.refl place s
    · exact AgreesOff.refl place s

theorem splitLast_isPrefix (path : Path) :
    (splitLast path).1 <+: path ∧ Path.steps (splitLast path).1 <+: Path.steps path := by
  have hstart := Path.directory_isPrefix path
  have hsteps := Path.steps_directory_isPrefix path
  simp only [splitLast]
  split
  · have hstart' := Path.directory_isPrefix (Path.directory path)
    have hsteps' := Path.steps_directory_isPrefix (Path.directory path)
    exact ⟨hstart'.trans hstart, hsteps'.trans hsteps⟩
  · exact ⟨hstart, hsteps⟩

theorem names_isPrefix_of_steps (habsolute : Path.isAbsolute path = true)
    (hplace : parentMark ∉ place) (hway : Path.steps path <+: place) (s : Store) :
    s.names path <+: place := by
  have hsteps : parentMark ∉ Path.steps path := fun hmem => hplace (hway.subset hmem)
  rwa [names, Path.join, if_pos habsolute, Path.names_eq_steps hsteps]

/-- Making the directories around a path changes nothing off the way to it. -/
theorem agreesOff_ensureAll (fuel : Nat) (s : Store) (habsolute : Path.isAbsolute path = true)
    (hplace : parentMark ∉ place) (hway : Path.steps path <+: place) :
    AgreesOff place s (ensureAll fuel s path).1 := by
  have hnames := names_isPrefix_of_steps habsolute hplace hway
  induction fuel generalizing path with
  | zero => exact AgreesOff.refl place s
  | succ fuel ih =>
    unfold ensureAll
    simp only
    split
    · exact agreesOff_ensureDirectory (hnames s)
    · rename_i hdeeper
      obtain ⟨hstart, hsteps⟩ := splitLast_isPrefix path
      have haround : (splitLast path).1 ≠ [] := by
        intro hnil
        simp [hnil] at hdeeper
      have habsolute' := Path.isAbsolute_of_isPrefix hstart haround habsolute
      have hway' := hsteps.trans hway
      have hmade := ih habsolute' hway' (names_isPrefix_of_steps habsolute' hplace hway')
      split
      · exact hmade
      · split
        · exact hmade
        · exact hmade.trans (agreesOff_ensureDirectory (hnames _))

theorem agreesOff_makeDirectories (habsolute : Path.isAbsolute path = true)
    (hplace : parentMark ∉ place) (hway : Path.steps path <+: place)
    (h : s.makeDirectories path = .ok t) : AgreesOff place s t := by
  unfold makeDirectories at h
  have hmade := agreesOff_ensureAll (path.length + 1) s habsolute hplace hway
  split at h
  · rename_i made hensure
    rw [hensure] at hmade
    obtain rfl := Except.ok.inj h
    exact hmade
  · simp at h

/-- Off the way to a place, agreeing stores have the same files. -/
theorem AgreesOff.lookup?_eq (h : AgreesOff place s t)
    (hrooted : Path.isAbsolute s.workingDirectory = true) (hs : s.root.isDirectory = true)
    (ht : t.root.isDirectory = true) (hpath : ¬ s.names path <+: place) :
    t.lookup? (s.absolute path) = s.lookup? (s.absolute path) := by
  have hworking := h.workingDirectory
  have habsolute : s.absolute path = t.absolute path := by simp [absolute, hworking]
  have hnames : t.names path = s.names path := by simp [names, hworking]
  rw [lookup?_absolute hrooted hs, habsolute, lookup?_absolute (hworking ▸ hrooted) ht, hnames,
    h.find?_eq _ hpath]

end Agreeing

end Store

end DeclDocs
