import DeclDocs.Proofs.FileStore
import DeclDocs.Run.Execution

/-!
The files of a source: a file is its own only file, and a directory has the source files below it
in order. They all lie at the place of the source or below, so a store that differs elsewhere has
the same files.
-/
namespace DeclDocs

open Extract

section Sources

variable (w : Workspace) (excluded : Option (List String)) (spec : SourceSpec)

def placeOf : Path := w.store.absolute (Path.ofString spec.path)

def filesOf : Except Failure (List Path) :=
  if w.store.isFile (placeOf w spec) then .ok [placeOf w spec]
  else if w.store.isDirectory (placeOf w spec) then
    ((chosenGrammar spec.grammar).mapM Grammar.named).map fun g =>
      Discovery.sourceFiles w.store (placeOf w spec) (g.map Grammar.extensions) excluded
  else .error (.sourceNotFound (placeOf w spec))

def filesIn : List Path := (filesOf w excluded spec).toOption.getD []

/-- The directory that the units of a source are named from: its own, or that around a file. -/
def rootOf : Path :=
  if w.store.isFile (placeOf w spec) then Path.directory (placeOf w spec) else placeOf w spec

variable {w excluded spec}

/-- A source that does not fail is a file or a directory. -/
theorem filesOf_eq_ok {files : List Path} (h : filesOf w excluded spec = .ok files) :
    w.store.isFile (placeOf w spec) = true ∧ files = [placeOf w spec] ∨
      w.store.isFile (placeOf w spec) = false ∧ w.store.isDirectory (placeOf w spec) = true ∧
        ∃ g, (chosenGrammar spec.grammar).mapM Grammar.named = .ok g ∧
          files = Discovery.sourceFiles w.store (placeOf w spec) (g.map Grammar.extensions)
            excluded := by
  unfold filesOf at h
  by_cases hfile : w.store.isFile (placeOf w spec) = true
  · rw [if_pos hfile] at h
    exact Or.inl ⟨hfile, (Except.ok.inj h).symm⟩
  · rw [if_neg hfile] at h
    by_cases hdirectory : w.store.isDirectory (placeOf w spec) = true
    · rw [if_pos hdirectory] at h
      cases hgrammar : (chosenGrammar spec.grammar).mapM Grammar.named with
      | error e => simp [hgrammar, Except.map] at h
      | ok g =>
        rw [hgrammar] at h
        exact Or.inr ⟨by simpa using hfile, hdirectory, g, rfl, (Except.ok.inj h).symm⟩
    · simp [if_neg hdirectory] at h

/-- A source fails if there is nothing at its place, or if it is a directory and names a grammar
that there is not. -/
theorem filesOf_eq_error {e : Failure} (h : filesOf w excluded spec = .error e) :
    w.store.isFile (placeOf w spec) = false ∧
      (w.store.isDirectory (placeOf w spec) = true ∧
          (chosenGrammar spec.grammar).mapM Grammar.named = .error e ∨
        w.store.isDirectory (placeOf w spec) = false ∧ e = .sourceNotFound (placeOf w spec)) := by
  unfold filesOf at h
  by_cases hfile : w.store.isFile (placeOf w spec) = true
  · simp [if_pos hfile] at h
  · rw [if_neg hfile] at h
    refine ⟨by simpa using hfile, ?_⟩
    by_cases hdirectory : w.store.isDirectory (placeOf w spec) = true
    · rw [if_pos hdirectory] at h
      cases hgrammar : (chosenGrammar spec.grammar).mapM Grammar.named with
      | error cause =>
        rw [hgrammar] at h
        exact Or.inl ⟨hdirectory, congrArg Except.error (Except.error.inj h)⟩
      | ok g => simp [hgrammar, Except.map] at h
    · rw [if_neg hdirectory] at h
      exact Or.inr ⟨by simpa using hdirectory, (Except.error.inj h).symm⟩

theorem isForeseen_of_named {grammar : Option String} {e : Failure}
    (h : grammar.mapM Grammar.named = .error e) : e.isForeseen = true := by
  cases grammar with
  | none => simp [pure, Except.pure] at h
  | some name =>
    cases hname : Grammar.ofName? name with
    | some g => simp [Grammar.named, hname, Functor.map, Except.map] at h
    | none =>
      simp [Grammar.named, hname, Functor.map, Except.map] at h
      rw [← h]
      rfl

/-- A source only fails in ways that are foreseen. -/
theorem isForeseen_of_filesOf {e : Failure} (h : filesOf w excluded spec = .error e) :
    e.isForeseen = true := by
  rcases (filesOf_eq_error h).2 with ⟨-, hgrammar⟩ | ⟨-, rfl⟩
  · exact isForeseen_of_named hgrammar
  · rfl

theorem mem_filesIn {file : Path} (h : file ∈ filesIn w excluded spec) :
    ∃ files, filesOf w excluded spec = .ok files ∧ file ∈ files := by
  unfold filesIn at h
  cases hfiles : filesOf w excluded spec with
  | error e => simp [hfiles, Except.toOption] at h
  | ok files => exact ⟨files, rfl, by simpa [hfiles, Except.toOption] using h⟩

end Sources

section Discovered

variable {store : Store} {directory file : Path} {extensions excluded : Option (List String)}

theorem sourceFiles_eq (store : Store) (directory : Path)
    (extensions excluded : Option (List String)) :
    Discovery.sourceFiles store directory extensions excluded =
      (((store.lookup? (store.absolute directory)).map fun tree =>
        tree.search (Discovery.enters (Discovery.excludedNames excluded))
          (Discovery.accepts (Discovery.acceptedExtensions extensions))
          (store.absolute directory)).getD []).mergeSort Path.le := by
  simp only [Discovery.sourceFiles]
  cases store.lookup? (store.absolute directory) with
  | none => simp
  | some tree => rfl

/-- The files that are found lie below the directory. -/
theorem names_of_mem_sourceFiles (hproper : store.IsProper)
    (h : file ∈ Discovery.sourceFiles store directory extensions excluded) :
    store.names directory <+: store.names file := by
  rw [sourceFiles_eq, List.mem_mergeSort] at h
  cases htree : store.lookup? (store.absolute directory) with
  | none => simp [htree] at h
  | some tree =>
    rw [htree] at h
    rw [Store.lookup?_absolute hproper.rooted hproper.directory] at htree
    have hnamed := FileTree.isNamed_of_find? hproper.named htree
    cases tree with
    | file octets => simp [FileTree.search] at h
    | directory entries =>
      obtain ⟨habsolute, hnames⟩ := FileTree.names_of_mem_searchEntries hnamed
        (Store.isAbsolute_absolute hproper.rooted directory) h
      rwa [Store.names_of_isAbsolute habsolute, ← Store.names_absolute hproper.rooted]

theorem Path.le_trans (a b c : Path) (hab : Path.le a b = true) (hbc : Path.le b c = true) :
    Path.le a c = true := by
  simp only [Path.le, Bool.not_eq_true', decide_eq_false_iff_not, List.not_lt] at hab hbc ⊢
  exact List.le_trans hab hbc

theorem Path.le_total (a b : Path) : (Path.le a b || Path.le b a) = true := by
  simp only [Path.le, Bool.or_eq_true, Bool.not_eq_true', decide_eq_false_iff_not, List.not_lt]
  exact List.le_total a b

theorem Path.mergeSort_pair {a b : Path} (h : Path.le a b = false) :
    [a, b].mergeSort Path.le = [b, a] := by
  simp [List.mergeSort, List.MergeSort.Internal.splitInTwo, h]

variable {w : Workspace} {spec : SourceSpec}

/-- The files of a source lie at its place or below. -/
theorem names_of_mem_filesIn (hproper : w.store.IsProper) (h : file ∈ filesIn w excluded spec) :
    w.store.names (Path.ofString spec.path) <+: w.store.names file := by
  obtain ⟨files, hfiles, hfile⟩ := mem_filesIn h
  have hplace : w.store.names (placeOf w spec) = w.store.names (Path.ofString spec.path) :=
    Store.names_of_absolute hproper.rooted (Path.ofString spec.path)
  rw [← hplace]
  rcases filesOf_eq_ok hfiles with ⟨-, rfl⟩ | ⟨-, -, g, -, rfl⟩
  · obtain rfl := List.mem_singleton.mp hfile
    exact List.prefix_rfl
  · exact names_of_mem_sourceFiles hproper hfile

/-- The files of a source come in order. -/
theorem sorted_filesIn (w : Workspace) (excluded : Option (List String)) (spec : SourceSpec) :
    (filesIn w excluded spec).Pairwise fun a b => Path.le a b = true := by
  unfold filesIn
  cases hfiles : filesOf w excluded spec with
  | error e => exact List.Pairwise.nil
  | ok files =>
    rcases filesOf_eq_ok hfiles with ⟨-, rfl⟩ | ⟨-, -, g, -, rfl⟩
    · exact List.pairwise_singleton _ _
    · rw [sourceFiles_eq]
      exact List.pairwise_mergeSort Path.le_trans Path.le_total _

end Discovered

section Agreeing

def Workspace.withStore (w : Workspace) (store : Store) : Workspace := { w with store }

variable {w : Workspace} {t : Store} {off : List Path} (hproper : w.store.IsProper)
  (hagrees : w.store.AgreesOff off t) (ht : t.root.isDirectory = true)

include hagrees in
theorem absolute_withStore (path : Path) :
    (w.withStore t).store.absolute path = w.store.absolute path := by
  rw [Store.absolute, Store.absolute, Workspace.withStore, hagrees.workingDirectory]

include hagrees in
theorem placeOf_withStore (spec : SourceSpec) : placeOf (w.withStore t) spec = placeOf w spec :=
  absolute_withStore hagrees (Path.ofString spec.path)

include hproper hagrees ht

theorem lookup?_withStore {path : Path} (h : ¬ w.store.names path <+: off) :
    (w.withStore t).store.lookup? (w.store.absolute path) =
      w.store.lookup? (w.store.absolute path) :=
  hagrees.lookup?_eq hproper.rooted hproper.directory ht h

theorem isFile_withStore {path : Path} (h : ¬ w.store.names path <+: off) :
    (w.withStore t).store.isFile (w.store.absolute path) =
      w.store.isFile (w.store.absolute path) := by
  rw [Store.isFile, Store.isFile, lookup?_withStore hproper hagrees ht h]

theorem isDirectory_withStore {path : Path} (h : ¬ w.store.names path <+: off) :
    (w.withStore t).store.isDirectory (w.store.absolute path) =
      w.store.isDirectory (w.store.absolute path) := by
  rw [Store.isDirectory, Store.isDirectory, lookup?_withStore hproper hagrees ht h]

theorem sourceFiles_withStore {directory : Path} {extensions excluded : Option (List String)}
    (h : ¬ w.store.names directory <+: off) :
    Discovery.sourceFiles (w.withStore t).store directory extensions excluded =
      Discovery.sourceFiles w.store directory extensions excluded := by
  rw [sourceFiles_eq, sourceFiles_eq, absolute_withStore hagrees,
    lookup?_withStore hproper hagrees ht h]

variable {excluded : Option (List String)} {spec : SourceSpec}
  (h : ¬ w.store.names (Path.ofString spec.path) <+: off)

include h

/-- Where only what lies off a source differs, the source has the same files. -/
theorem filesOf_withStore : filesOf (w.withStore t) excluded spec = filesOf w excluded spec := by
  have hisFile : (w.withStore t).store.isFile (placeOf w spec) = w.store.isFile (placeOf w spec) :=
    isFile_withStore hproper hagrees ht h
  have hisDirectory : (w.withStore t).store.isDirectory (placeOf w spec) =
      w.store.isDirectory (placeOf w spec) := isDirectory_withStore hproper hagrees ht h
  have hplace : ¬ w.store.names (placeOf w spec) <+: off := by
    rwa [placeOf, Store.names_of_absolute hproper.rooted]
  simp only [filesOf, placeOf_withStore hagrees, hisFile, hisDirectory,
    sourceFiles_withStore hproper hagrees ht hplace]

theorem rootOf_withStore : rootOf (w.withStore t) spec = rootOf w spec := by
  have hisFile : (w.withStore t).store.isFile (placeOf w spec) = w.store.isFile (placeOf w spec) :=
    isFile_withStore hproper hagrees ht h
  rw [rootOf, rootOf, placeOf_withStore hagrees, hisFile]

end Agreeing

end DeclDocs
