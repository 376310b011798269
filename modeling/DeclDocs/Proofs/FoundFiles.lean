import DeclDocs.Proofs.SourceFiles

/-!
The source files below a directory, told by what stands in the tree there. A file is found exactly
if its name has an accepted extension and none of the directories on the way to it is left out;
neither the directory that is searched nor the name of the file is compared with the directories to
leave out. Since no two entries of a directory have one name, every file is found once and the paths
strictly increase.
-/
namespace DeclDocs

namespace FileTree

mutual

def isDistinct : FileTree → Bool
  | .file _ => true
  | .directory entries => areDistinct entries

def areDistinct : List (Path × FileTree) → Bool
  | [] => true
  | (name, tree) :: rest =>
      !(rest.any fun e => e.1 == name) && tree.isDistinct && areDistinct rest

end

section Found

variable {enter accept : Path → Bool} {base path name : Path} {names : List Path} {tree : FileTree}
  {entries rest : List (Path × FileTree)}

theorem isDistinct_of_mem (hdistinct : areDistinct entries = true) {entry : Path × FileTree}
    (h : entry ∈ entries) : entry.2.isDistinct = true := by
  induction entries with
  | nil => simp at h
  | cons first entries ih =>
    simp only [areDistinct, Bool.and_eq_true] at hdistinct
    rcases List.mem_cons.mp h with rfl | hlater
    · exact hdistinct.1.2
    · exact ih hdistinct.2 hlater

theorem isDistinct_of_find? (hdistinct : tree.isDistinct = true) {found : FileTree}
    (h : tree.find? names = some found) : found.isDistinct = true :=
  inherits_of_find? (P := fun tree => tree.isDistinct = true)
    (fun _ hentries _ hmem => isDistinct_of_mem hentries hmem) hdistinct h

/-- The way into a directory leads to its first entry or to one of the others. -/
theorem find?_directory_cons {first : Path × FileTree} {found : FileTree}
    (hfresh : (rest.any fun e => e.1 == first.1) = false) :
    (FileTree.directory (first :: rest)).find? (name :: names) = some found ↔
      name = first.1 ∧ first.2.find? names = some found ∨
        (FileTree.directory rest).find? (name :: names) = some found := by
  by_cases hname : first.1 = name
  · subst hname
    have habsent : (FileTree.directory rest).find? (first.1 :: names) = none := by
      simp only [find?, child?, Option.bind_eq_none_iff, Option.map_eq_some_iff]
      rintro _ ⟨entry, hentry, -⟩
      have hany := List.any_eq_false.mp hfresh entry (List.mem_of_find?_eq_some hentry)
      exact absurd (List.find?_some hentry) hany
    rw [habsent]
    simp [find?, child?]
  · simp [find?, child?, hname, Ne.symm hname]

def IsFound (enter accept : Path → Bool) (base : Path) (tree : FileTree) (path : Path) : Prop :=
  ∃ dirs name octets, tree.find? (dirs ++ [name]) = some (.file octets) ∧
    path = (dirs ++ [name]).foldl Path.join base ∧ accept name = true ∧
    ∀ d ∈ dirs, enter d = true

/-- Nothing is found where there are no entries. -/
theorem not_isFound_of_childless (h : ∀ name, tree.child? name = none) :
    ¬ IsFound enter accept base tree path := by
  rintro ⟨dirs, name, octets, hfind, -⟩
  cases dirs with
  | nil => simp [find?, h] at hfind
  | cons d dirs => simp [find?, h] at hfind

theorem not_isFound_file (octets : List UInt8) :
    ¬ IsFound enter accept base (.file octets) path :=
  not_isFound_of_childless fun _ => rfl

/-- A file is found as the first entry, below it, or through the other entries. -/
theorem isFound_cons {first : Path × FileTree}
    (hfresh : (rest.any fun e => e.1 == first.1) = false) :
    IsFound enter accept base (.directory (first :: rest)) path ↔
      (first.2.isFile = true ∧ accept first.1 = true ∧ path = Path.join base first.1 ∨
        enter first.1 = true ∧ IsFound enter accept (Path.join base first.1) first.2 path) ∨
      IsFound enter accept base (.directory rest) path := by
  constructor
  · rintro ⟨dirs, name, octets, hfind, hpath, haccept, henter⟩
    cases dirs with
    | nil =>
      rcases (find?_directory_cons hfresh).mp hfind with ⟨rfl, hfirst⟩ | hrest
      · exact Or.inl (Or.inl ⟨by simp_all [find?, isFile], haccept, hpath⟩)
      · exact Or.inr ⟨[], name, octets, hrest, hpath, haccept, henter⟩
    | cons d dirs =>
      rcases (find?_directory_cons hfresh).mp hfind with ⟨rfl, hfirst⟩ | hrest
      · obtain ⟨hfirstEntered, hentered⟩ := List.forall_mem_cons.mp henter
        exact Or.inl (Or.inr ⟨hfirstEntered, dirs, name, octets, hfirst, hpath, haccept, hentered⟩)
      · exact Or.inr ⟨d :: dirs, name, octets, hrest, hpath, haccept, henter⟩
  · rintro ((⟨hfile, haccept, hpath⟩ | ⟨henter, dirs, name, octets, hfind, hpath, haccept, hdirs⟩) |
      ⟨dirs, name, octets, hfind, hpath, haccept, henter⟩)
    · obtain ⟨n, e⟩ := first
      cases e with
      | directory entries => simp [isFile] at hfile
      | file octets =>
        exact ⟨[], n, octets, (find?_directory_cons hfresh).mpr (Or.inl ⟨rfl, rfl⟩), hpath, haccept,
          by simp⟩
    · refine ⟨first.1 :: dirs, name, octets, ?_, hpath, haccept, ?_⟩
      · exact (find?_directory_cons hfresh).mpr (Or.inl ⟨rfl, hfind⟩)
      · simpa [henter] using hdirs
    · refine ⟨dirs, name, octets, ?_, hpath, haccept, henter⟩
      cases dirs with
      | nil => exact (find?_directory_cons hfresh).mpr (Or.inr hfind)
      | cons d dirs => exact (find?_directory_cons hfresh).mpr (Or.inr hfind)

/-- The search finds exactly the files that are to be found. -/
theorem mem_searchEntries_iff (hdistinct : areDistinct entries = true) :
    path ∈ searchEntries enter accept base entries ↔
      IsFound enter accept base (.directory entries) path := by
  fun_induction searchEntries enter accept base entries with
  | case1 => simpa using not_isFound_of_childless fun _ => rfl
  | case2 base name octets rest ih =>
    simp only [areDistinct, Bool.and_eq_true, Bool.not_eq_true'] at hdistinct
    rw [List.mem_append, ih hdistinct.2, isFound_cons hdistinct.1.1]
    simp [not_isFound_file, isFile]
  | case3 base name entries rest ihEntries ihRest =>
    simp only [areDistinct, Bool.and_eq_true, Bool.not_eq_true'] at hdistinct
    rw [List.mem_append, ihRest hdistinct.2, isFound_cons hdistinct.1.1]
    have hinner := ihEntries hdistinct.1.2
    cases henter : enter name with
    | false => simp [isFile]
    | true => simp [isFile, hinner]

/-- Joining the names of entries to a path adds them to the names it leads along. -/
theorem names_foldl_join (hnamed : tree.isNamed = true) {found : FileTree}
    (h : tree.find? names = some found) (base : Path) :
    Path.names (names.foldl Path.join base) = Path.names base ++ names := by
  induction names generalizing tree base with
  | nil => simp
  | cons name names ih =>
    obtain ⟨child, hchild, hfound⟩ := Option.bind_eq_some_iff.mp h
    cases tree with
    | file octets => simp [child?] at hchild
    | directory entries =>
      obtain ⟨entry, hentry, rfl⟩ := Option.map_eq_some_iff.mp hchild
      have hmem := List.mem_of_find?_eq_some hentry
      obtain ⟨hname, hslash, hinner⟩ := areNamed_iff.mp hnamed entry hmem
      obtain rfl : entry.1 = name := by simpa using List.find?_some hentry
      rw [List.foldl_cons, ih hinner hfound, Path.names_join hname hslash,
        List.append_assoc, List.singleton_append]

theorem IsFound.names_eq (h : IsFound enter accept base tree path) (hnamed : tree.isNamed = true) :
    ∃ name more, Path.names path = Path.names base ++ name :: more ∧
      (tree.child? name).isSome = true := by
  obtain ⟨dirs, name, octets, hfind, rfl, -, -⟩ := h
  rw [names_foldl_join hnamed hfind]
  cases dirs with
  | nil =>
    obtain ⟨child, hchild, -⟩ := Option.bind_eq_some_iff.mp hfind
    exact ⟨name, [], rfl, by simp [hchild]⟩
  | cons d dirs =>
    obtain ⟨child, hchild, -⟩ := Option.bind_eq_some_iff.mp hfind
    exact ⟨d, dirs ++ [name], rfl, by simp [hchild]⟩

/-- A path that leads along another entry is not found through the rest. -/
theorem not_mem_searchEntries_of_fresh (hnamed : areNamed rest = true)
    (hdistinct : areDistinct rest = true) (hfresh : (rest.any fun e => e.1 == name) = false)
    {more : List Path} (hnames : Path.names path = Path.names base ++ name :: more) :
    path ∉ searchEntries enter accept base rest := by
  intro hmem
  have hfound := (mem_searchEntries_iff hdistinct).mp hmem
  obtain ⟨other, others, hother, hchild⟩ := hfound.names_eq hnamed
  obtain ⟨rfl, -⟩ := List.cons.inj (List.append_cancel_left (hnames.symm.trans hother))
  obtain ⟨entry, hentry⟩ := Option.isSome_iff_exists.mp ((Option.isSome_map ..).symm.trans hchild)
  have hany := List.any_eq_false.mp hfresh entry (List.mem_of_find?_eq_some hentry)
  exact absurd (List.find?_some hentry) hany

/-- No file is found twice. -/
theorem nodup_searchEntries (hnamed : areNamed entries = true)
    (hdistinct : areDistinct entries = true) :
    (searchEntries enter accept base entries).Nodup := by
  fun_induction searchEntries enter accept base entries with
  | case1 => exact List.nodup_nil
  | case2 base name octets rest ih =>
    simp only [areDistinct, Bool.and_eq_true, Bool.not_eq_true'] at hdistinct
    obtain ⟨⟨hname, hslash, -⟩, hrest⟩ := List.forall_mem_cons.mp (areNamed_iff.mp hnamed)
    rw [← areNamed_iff] at hrest
    refine List.nodup_append.mpr ⟨?_, ih hrest hdistinct.2, ?_⟩
    · split <;> simp
    · rintro first hfirst later hlater rfl
      obtain rfl : first = Path.join base name := by simp_all
      exact not_mem_searchEntries_of_fresh hrest hdistinct.2 hdistinct.1.1
        (Path.names_join hname hslash) hlater
  | case3 base name entries rest ihEntries ihRest =>
    simp only [areDistinct, isDistinct, Bool.and_eq_true, Bool.not_eq_true'] at hdistinct
    obtain ⟨⟨hname, hslash, hentries⟩, hrest⟩ := List.forall_mem_cons.mp (areNamed_iff.mp hnamed)
    rw [← areNamed_iff] at hrest
    refine List.nodup_append.mpr ⟨?_, ihRest hrest hdistinct.2, ?_⟩
    · split
      · exact ihEntries hentries hdistinct.1.2
      · exact List.nodup_nil
    · rintro first hfirst later hlater rfl
      have hinner : first ∈ searchEntries enter accept (Path.join base name) entries := by simp_all
      have hfound := (mem_searchEntries_iff hdistinct.1.2).mp hinner
      obtain ⟨next, more, hnames, -⟩ := hfound.names_eq hentries
      rw [Path.names_join hname hslash, List.append_assoc, List.singleton_append] at hnames
      exact not_mem_searchEntries_of_fresh hrest hdistinct.2 hdistinct.1.1 hnames hlater

theorem mem_search_iff (hdistinct : tree.isDistinct = true) :
    path ∈ tree.search enter accept base ↔ IsFound enter accept base tree path := by
  cases tree with
  | file octets => simpa [search] using not_isFound_file octets
  | directory entries => exact mem_searchEntries_iff hdistinct

theorem nodup_search (hnamed : tree.isNamed = true) (hdistinct : tree.isDistinct = true) :
    (tree.search enter accept base).Nodup := by
  cases tree with
  | file octets => exact List.nodup_nil
  | directory entries => exact nodup_searchEntries hnamed hdistinct

end Found

end FileTree

theorem Store.exists_find?_of_lookup? {store : Store} {path : Path} {tree : FileTree}
    (h : store.lookup? path = some tree) : ∃ names, store.root.find? names = some tree := by
  rw [lookup?_eq] at h
  obtain ⟨names, -, hfind⟩ := Option.bind_eq_some_iff.mp h
  exact ⟨names, hfind⟩

theorem Path.lt_of_le_of_ne {a b : Path} (hle : Path.le a b = true) (hne : a ≠ b) : a < b := by
  simp only [Path.le, Bool.not_eq_true', decide_eq_false_iff_not, List.not_lt] at hle
  by_contra hlt
  exact hne (List.le_antisymm hle (List.not_lt.mp hlt))

namespace Discovery

variable {store : Store} {directory path name : Path} {extensions excluded : Option (List String)}

/-- A name with an extension to accept, in whatever case. All extensions that are supported are
accepted if none are given. -/
def IsAccepted (extensions : Option (List String)) (name : Path) : Prop :=
  ∃ extension ∈ (match extensions with
    | none | some [] => Grammar.supportedExtensions
    | some given => given), lowerExtension name = Text.lowerString extension

/-- A directory that is hidden or to be left out. Some names are left out unless others are
given. -/
def IsLeftOut (excluded : Option (List String)) (name : Path) : Prop :=
  name.head? = some '.' ∨ Path.text name ∈ (match excluded with
    | none => defaultExcluded
    | some given => given)

theorem accepts_iff :
    accepts (acceptedExtensions extensions) name = true ↔ IsAccepted extensions name := by
  have hchosen : acceptedExtensions extensions = (match extensions with
      | none | some [] => Grammar.supportedExtensions
      | some given => given).map Text.lowerString := by
    rcases extensions with _ | _ | ⟨first, given⟩ <;> rfl
  simp only [accepts, hchosen, List.contains_iff_mem, List.mem_map, IsAccepted]
  simp only [eq_comm]

theorem enters_iff : enters (excludedNames excluded) name = true ↔ ¬ IsLeftOut excluded name := by
  cases excluded <;> simp [enters, excludedNames, IsLeftOut]

/-- A file of some name below a directory, where no directory on the way to it is left out. -/
def IsFileBelow (store : Store) (directory : Path) (excluded : Option (List String))
    (path name : Path) : Prop :=
  ∃ tree dirs octets, store.lookup? (store.absolute directory) = some tree ∧
    tree.find? (dirs ++ [name]) = some (.file octets) ∧
    path = (dirs ++ [name]).foldl Path.join (store.absolute directory) ∧
    ∀ d ∈ dirs, ¬ IsLeftOut excluded d

/-- The way to a file below a directory. -/
theorem IsFileBelow.exists_way (h : IsFileBelow store directory excluded path name)
    (hnamed : store.root.isNamed = true) :
    ∃ dirs, path = (dirs ++ [name]).foldl Path.join (store.absolute directory) ∧
      Path.names path = Path.names (store.absolute directory) ++ (dirs ++ [name]) := by
  obtain ⟨tree, dirs, octets, hlookup, hfind, rfl, -⟩ := h
  obtain ⟨place, htree⟩ := Store.exists_find?_of_lookup? hlookup
  refine ⟨dirs, rfl, ?_⟩
  exact FileTree.names_foldl_join (FileTree.isNamed_of_find? hnamed htree) hfind _

theorem isFound_iff {tree : FileTree}
    (hlookup : store.lookup? (store.absolute directory) = some tree) :
    tree.IsFound (enters (excludedNames excluded)) (accepts (acceptedExtensions extensions))
        (store.absolute directory) path ↔
      ∃ name, IsFileBelow store directory excluded path name ∧ IsAccepted extensions name := by
  simp only [FileTree.IsFound, accepts_iff, enters_iff]
  constructor
  · rintro ⟨dirs, name, octets, hfind, hpath, haccepted, hdirs⟩
    exact ⟨name, ⟨tree, dirs, octets, hlookup, hfind, hpath, hdirs⟩, haccepted⟩
  · rintro ⟨name, ⟨other, dirs, octets, hother, hfind, hpath, hdirs⟩, haccepted⟩
    obtain rfl := Option.some.inj (hlookup.symm.trans hother)
    exact ⟨dirs, name, octets, hfind, hpath, haccepted, hdirs⟩

/-- The paths that are found strictly increase, since no two are equal. -/
theorem increasing_sourceFiles (hnamed : store.root.isNamed = true)
    (hdistinct : store.root.isDistinct = true) (directory : Path)
    (extensions excluded : Option (List String)) :
    (sourceFiles store directory extensions excluded).Pairwise (· < ·) := by
  rw [sourceFiles_eq]
  cases hlookup : store.lookup? (store.absolute directory) with
  | none => simp
  | some tree =>
    obtain ⟨names, hfind⟩ := Store.exists_find?_of_lookup? hlookup
    have hnodup : (tree.search (enters (excludedNames excluded))
        (accepts (acceptedExtensions extensions)) (store.absolute directory)).Nodup :=
      FileTree.nodup_search (FileTree.isNamed_of_find? hnamed hfind)
        (FileTree.isDistinct_of_find? hdistinct hfind)
    refine List.Pairwise.imp₂ (fun _ _ => Path.lt_of_le_of_ne)
      (List.pairwise_mergeSort Path.le_trans Path.le_total _) ?_
    exact (List.mergeSort_perm _ _).nodup_iff.mpr hnodup

theorem mem_sourceFiles_iff (hdistinct : store.root.isDistinct = true) :
    path ∈ sourceFiles store directory extensions excluded ↔
      ∃ name, IsFileBelow store directory excluded path name ∧ IsAccepted extensions name := by
  rw [sourceFiles_eq, List.mem_mergeSort]
  cases hlookup : store.lookup? (store.absolute directory) with
  | none => simp [IsFileBelow, hlookup]
  | some tree =>
    obtain ⟨names, hfind⟩ := Store.exists_find?_of_lookup? hlookup
    rw [← isFound_iff hlookup]
    exact FileTree.mem_search_iff (FileTree.isDistinct_of_find? hdistinct hfind)

/-- Discovery gives the files below a directory whose names are accepted, in strictly increasing
order. -/
theorem discover_finds_sources (hnamed : store.root.isNamed = true)
    (hdistinct : store.root.isDistinct = true) (directory : Path)
    (extensions excluded : Option (List String)) :
    let found := (discover store directory extensions excluded).value
    found.Pairwise (· < ·) ∧ ∀ path, path ∈ found ↔
      ∃ name, IsFileBelow store directory excluded path name ∧ IsAccepted extensions name :=
  ⟨increasing_sourceFiles hnamed hdistinct directory extensions excluded,
    fun _ => mem_sourceFiles_iff hdistinct⟩

def buildOutput : FileTree :=
  .directory [("B.VB".toList, .file []), ("s".toList, .directory [("d.cs".toList, .file [])]),
    (".x.cs".toList, .file []), ("obj".toList, .directory [("c.cs".toList, .file [])])]

def buildStore : Store where
  root := .directory [("bin".toList, buildOutput)]
  workingDirectory := ['/']

theorem discover_in_buildStore :
    let found := (discover buildStore "bin".toList none none).value
    found.Pairwise (· < ·) ∧ "/bin/.x.cs".toList ∈ found ∧ "/bin/B.VB".toList ∈ found ∧
      "/bin/s/d.cs".toList ∈ found := by
  intro found
  have hsources : found.Pairwise (· < ·) ∧ ∀ path, path ∈ found ↔
      ∃ name, IsFileBelow buildStore "bin".toList none path name ∧ IsAccepted none name :=
    discover_finds_sources (by decide +kernel) (by decide +kernel) "bin".toList none none
  refine ⟨hsources.1, ?_, ?_, ?_⟩
  · exact (hsources.2 _).mpr ⟨".x.cs".toList,
      ⟨buildOutput, [], [], rfl, rfl, by decide +kernel, by simp⟩,
      accepts_iff.mp (by decide +kernel)⟩
  · exact (hsources.2 _).mpr ⟨"B.VB".toList,
      ⟨buildOutput, [], [], rfl, rfl, by decide +kernel, by simp⟩,
      accepts_iff.mp (by decide +kernel)⟩
  · refine (hsources.2 _).mpr ⟨"d.cs".toList,
      ⟨buildOutput, ["s".toList], [], rfl, rfl, by decide +kernel, ?_⟩,
      accepts_iff.mp (by decide +kernel)⟩
    intro d hd
    obtain rfl := List.mem_singleton.mp hd
    exact enters_iff.mp (by decide +kernel)

end Discovery

end DeclDocs
