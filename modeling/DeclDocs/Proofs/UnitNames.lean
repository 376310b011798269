import DeclDocs.Proofs.GrammarDispatch
import DeclDocs.Proofs.RelativePaths
import Mathlib.Data.List.Forall2
import Mathlib.Data.List.Nodup

/-!
What the name of a unit tells. Units are named by the way to their file from one directory, be it
around the file or not, so going that way leads to the file again. Within a source no two units have
the same name, and the errors of a unit have the name of the unit.
-/
namespace DeclDocs

open Log Extract Journal Discovery

namespace Store

/-- An absolute path is only normalised. -/
theorem absolute_of_isAbsolute (store : Store) {path : Path}
    (h : Path.isAbsolute path = true) : store.absolute path = Path.normalize path := by
  rw [absolute, Path.absolute, Path.join, if_pos h]

theorem absolute_absolute {store : Store}
    (h : Path.isAbsolute store.workingDirectory = true) (path : Path) :
    store.absolute (store.absolute path) = store.absolute path := by
  rw [store.absolute_of_isAbsolute (isAbsolute_absolute h path)]
  exact Path.normalize_normalize (Path.isAbsolute_join h path)

theorem rootSlashes_absolute (store : Store) {path : Path} (h : Path.rootSlashes path = ['/']) :
    Path.rootSlashes (store.absolute path) = ['/'] := by
  have habsolute := Path.isAbsolute_of_rootSlashes h
  rw [store.absolute_of_isAbsolute habsolute, Path.rootSlashes_normalize habsolute, h]

end Store

section Root

def ownRoot (w : Workspace) (source : Path) : Path :=
  if w.store.isFile (w.store.absolute source) then Path.directory (w.store.absolute source)
  else w.store.absolute source

/-- The directory that the units of a source are named from; an empty one is not given. -/
def namingRoot (w : Workspace) (options : BatchOptions) (source : Path) : Path :=
  match options.root with
  | none | some [] => ownRoot w source
  | some root => w.store.absolute root

/-- A directory that is given starts with as many slashes as the source. -/
def FitsSource (w : Workspace) (options : BatchOptions) (source : Path) : Prop :=
  ∀ root, options.root = some root → root ≠ [] →
    Path.rootSlashes (w.store.absolute root) = Path.rootSlashes (w.store.absolute source)

variable {w : Workspace} {options : BatchOptions} {source : Path} (hproper : w.store.IsProper)

theorem namingRoot_eq (w : Workspace) (options : BatchOptions) (source : Path) :
    namingRoot w options source =
      ((options.root.filter fun root => !root.isEmpty).map w.store.absolute).getD
        (ownRoot w source) := by
  unfold namingRoot
  rcases options.root with _ | _ | ⟨c, root⟩ <;> rfl

/-- Paths with one slash in front fit together. -/
theorem fitsSource_of_rootSlashes (hsource : Path.rootSlashes source = ['/'])
    (hroot : ∀ root, options.root = some root → Path.rootSlashes root = ['/']) :
    FitsSource w options source := by
  intro root hgiven _
  rw [w.store.rootSlashes_absolute (hroot root hgiven), w.store.rootSlashes_absolute hsource]

include hproper

theorem isAbsolute_ownRoot (source : Path) : Path.isAbsolute (ownRoot w source) = true := by
  have habsolute := Store.isAbsolute_absolute hproper.rooted source
  unfold ownRoot
  split
  · exact Path.isAbsolute_directory habsolute
  · exact habsolute

theorem rootSlashes_ownRoot (source : Path) :
    Path.rootSlashes (ownRoot w source) = Path.rootSlashes (w.store.absolute source) := by
  unfold ownRoot
  split
  · exact Path.rootSlashes_directory (Store.isAbsolute_absolute hproper.rooted source)
  · rfl

theorem isAbsolute_namingRoot (options : BatchOptions) (source : Path) :
    Path.isAbsolute (namingRoot w options source) = true := by
  unfold namingRoot
  split
  · exact isAbsolute_ownRoot hproper source
  · exact isAbsolute_ownRoot hproper source
  · exact Store.isAbsolute_absolute hproper.rooted _

theorem rootSlashes_namingRoot (h : FitsSource w options source) :
    Path.rootSlashes (namingRoot w options source) =
      Path.rootSlashes (w.store.absolute source) := by
  unfold namingRoot
  split
  · exact rootSlashes_ownRoot hproper source
  · exact rootSlashes_ownRoot hproper source
  · rename_i root hne hroot
    exact h root hroot fun hnil => hne (hnil ▸ rfl)

end Root

section Units

variable {w : Workspace} {file root : Path} {grammar : Option String}

/-- A unit and the file that it comes from: it is what the file gives, its name leads to the file
from the directory that it was named from, and its errors have that name. -/
structure IsUnitOf (w : Workspace) (grammar : Option String) (root file : Path)
    (unit : UnitResult) : Prop where
  extracted : ∀ context,
    ((extractFile w file grammar (some root)).run context).value = .ok unit
  leads : Path.absolute root (Path.ofString unit.unit) = file
  errors : ∀ e ∈ unit.errors, e.unit = some unit.unit

theorem unit_of_mem_errors {g : Grammar} {tree : Syntax.Tree} {unit : String}
    {e : DeclarationError} (h : e ∈ (extractUnit g tree unit).value.errors) :
    e.unit = some unit := by
  rw [extractUnit_value] at h
  obtain ⟨cause, -, rfl⟩ := List.mem_map.mp h
  rfl

theorem isUnitOf_of_unitOf {unit : ExtractedUnit} (hfile : Path.isAbsolute file = true)
    (hnormal : Path.normalize file = file) (hroot : Path.isAbsolute root = true)
    (hslashes : Path.rootSlashes root = Path.rootSlashes file)
    (h : unitOf w file grammar (some root) = .ok unit) :
    IsUnitOf w grammar root file unit.result := by
  obtain ⟨g, tree, -, hresult⟩ := exists_tree_of_unitOf h
  rw [rootFor, w.store.absolute_of_isAbsolute hfile, w.store.absolute_of_isAbsolute hroot]
    at hresult
  have hunit : unit.result.unit =
      Path.text (Path.relative (Path.normalize file) (Path.normalize root)) := by
    rw [hresult, extractUnit_value]
    rfl
  constructor
  case extracted =>
    intro context
    rw [yields_extractFile w file grammar (some root) context, h]
    rfl
  case leads =>
    have hpath : Path.ofString (Path.text (Path.relative (Path.normalize file)
        (Path.normalize root))) = Path.relative (Path.normalize file) (Path.normalize root) := by
      simp [Path.ofString, Path.text]
    rw [hunit, hpath, Path.absolute_relative hroot hfile hslashes, hnormal]
  case errors =>
    intro e he
    rw [hresult] at he
    rw [hunit, unit_of_mem_errors he]

end Units

section Batches

variable (w : Workspace) (options : BatchOptions)

/-- A batch gives units of some of its files, in order, whether or not it goes on after failures. -/
theorem exists_yields_runFiles_origins (root : Path) (files : List Path) (stats : Stats) :
    ∃ batch origins, Yields (runFiles w options root files stats) batch ∧ origins.Sublist files ∧
      List.Forall₂ (fun file result =>
          ∃ unit, unitOf w file options.grammar (some root) = .ok unit ∧ unit.result = result)
        origins (batch.units.map (·.1)) := by
  induction files generalizing stats with
  | nil => exact ⟨_, [], yields_pure _, List.Sublist.refl [], .nil⟩
  | cons file files ih =>
    cases houtcome : unitOf w file options.grammar (some root) with
    | ok unit =>
      obtain ⟨batch, origins, hbatch, hsublist, hunits⟩ := ih (stats.record unit)
      exact ⟨_, file :: origins, yields_runFiles_ok houtcome hbatch, hsublist.cons_cons file,
        .cons ⟨unit, houtcome, rfl⟩ hunits⟩
    | error e =>
      cases hgoOn : options.goOn with
      | true =>
        obtain ⟨batch, origins, hbatch, hsublist, hunits⟩ := ih stats.recordFailure
        exact ⟨batch, origins, yields_runFiles_error hgoOn houtcome hbatch, hsublist.cons file,
          hunits⟩
      | false =>
        exact ⟨_, [], yields_runFiles_stop hgoOn houtcome files stats, List.nil_sublist _, .nil⟩

inductive AreFilesOf (source : Path) : List Path → Prop
  | file : AreFilesOf source [w.store.absolute source]
  | directory (extensions : Option (List String)) :
      AreFilesOf source
        (sourceFiles w.store (w.store.absolute source) extensions options.excluded)

/-- A source fails before any file is looked at, or else it is a batch of its files. -/
theorem runSource_cases (source : Path) (stats : Stats) :
    (∃ e, Yields (runSource w options source stats) ⟨[], stats, some e⟩) ∨
      ∃ files, AreFilesOf w options source files ∧
        ∀ batch, Yields (runFiles w options (namingRoot w options source) files stats) batch →
          Yields (runSource w options source stats) batch := by
  rw [namingRoot_eq, ownRoot]
  cases hfile : w.store.isFile (w.store.absolute source) with
  | true =>
    refine .inr ⟨_, .file, fun batch hbatch => ?_⟩
    simpa only [runSource, hfile, if_true] using hbatch
  | false =>
    cases hdirectory : w.store.isDirectory (w.store.absolute source) with
    | false =>
      refine .inl ⟨.sourceNotFound (w.store.absolute source), ?_⟩
      simpa only [runSource, hfile, hdirectory, Bool.false_eq_true, if_false] using yields_pure _
    | true =>
      cases hchosen : (chosenGrammar options.grammar).mapM Grammar.named with
      | error e =>
        refine .inl ⟨e, ?_⟩
        simpa only [runSource, hfile, hdirectory, hchosen, Bool.false_eq_true, if_false, if_true]
          using yields_pure _
      | ok chosen =>
        exact .inr ⟨_, .directory (chosen.map Grammar.extensions), fun batch hbatch =>
          yields_runSource_of_directory hfile hdirectory hchosen hbatch⟩

variable {w options} {source file : Path} {files : List Path} (hproper : w.store.IsProper)

include hproper

theorem AreFilesOf.increasing (h : AreFilesOf w options source files)
    (hdistinct : w.store.root.isDistinct = true) : files.Pairwise (· < ·) := by
  cases h with
  | file => exact List.pairwise_singleton _ _
  | directory extensions =>
    exact increasing_sourceFiles hproper.named hdistinct _ extensions options.excluded

theorem AreFilesOf.mem (h : AreFilesOf w options source files)
    (hdistinct : w.store.root.isDistinct = true) (hfile : file ∈ files) :
    file = w.store.absolute source ∨
      ∃ name, IsFileBelow w.store source options.excluded file name := by
  cases h with
  | file => exact .inl (List.mem_singleton.mp hfile)
  | directory extensions =>
    obtain ⟨name, hbelow, -⟩ := (mem_sourceFiles_iff hdistinct).mp hfile
    unfold IsFileBelow at hbelow ⊢
    rw [Store.absolute_absolute hproper.rooted] at hbelow
    exact .inr ⟨name, hbelow⟩

/-- The files of a source have normalised paths with as many slashes in front as the source. -/
theorem normalize_of_isFileBelow {excluded : Option (List String)}
    (h : file = w.store.absolute source ∨ ∃ name, IsFileBelow w.store source excluded file name) :
    Path.isAbsolute file = true ∧ Path.normalize file = file ∧
      Path.rootSlashes file = Path.rootSlashes (w.store.absolute source) := by
  have habsolute := Store.isAbsolute_absolute hproper.rooted source
  have hnormal : Path.normalize (w.store.absolute source) = w.store.absolute source :=
    Path.normalize_normalize (Path.isAbsolute_join hproper.rooted source)
  rcases h with rfl | ⟨name, hbelow⟩
  · exact ⟨habsolute, hnormal, rfl⟩
  · obtain ⟨dirs, hfile, hnames⟩ := hbelow.exists_way hproper.named
    have hparts : ∀ part ∈ dirs ++ [name], Path.isName part = true ∧ '/' ∉ part := by
      intro part hpart
      have hmem : part ∈ Path.names file := by
        rw [hnames]
        exact List.mem_append_right _ hpart
      exact ⟨Path.isName_of_mem_names hmem, Path.slash_not_mem_of_mem_names hmem⟩
    rw [hfile]
    exact ⟨Path.isAbsolute_foldl_join habsolute _,
      Path.normalize_foldl_join habsolute hnormal hparts⟩

end Batches

/-- The way from the directory that the units of a source are named from leads to their files, so
that no two files have units of one name. -/
theorem unit_names_file {w : Workspace} (hproper : w.store.IsProper)
    (hdistinct : w.store.root.isDistinct = true) {options : BatchOptions} {source : Path}
    (hfits : FitsSource w options source) (stats : Stats) (context : Context) :
    let units := (runSource w options source stats context).value.units.map (·.1)
    ∃ files, files.Pairwise (· < ·) ∧
      (∀ file ∈ files, file = w.store.absolute source ∨
        ∃ name, IsFileBelow w.store source options.excluded file name) ∧
      List.Forall₂ (IsUnitOf w options.grammar (namingRoot w options source)) files units ∧
      (units.map UnitResult.unit).Nodup := by
  have hrootAbsolute := isAbsolute_namingRoot hproper options source
  have hrootSlashes := rootSlashes_namingRoot hproper hfits
  rcases runSource_cases w options source stats with ⟨e, hfails⟩ | ⟨files, hfiles, hruns⟩
  · rw [hfails context]
    exact ⟨[], .nil, by simp, .nil, List.nodup_nil⟩
  · obtain ⟨batch, origins, hbatch, hsublist, hunits⟩ :=
      exists_yields_runFiles_origins w options (namingRoot w options source) files stats
    rw [hruns batch hbatch context]
    have hincreasing := (hfiles.increasing hproper hdistinct).sublist hsublist
    have hplaced : ∀ file ∈ origins, file = w.store.absolute source ∨
        ∃ name, IsFileBelow w.store source options.excluded file name :=
      fun file hfile => hfiles.mem hproper hdistinct (hsublist.mem hfile)
    have hnamed : List.Forall₂ (IsUnitOf w options.grammar (namingRoot w options source)) origins
        (batch.units.map (·.1)) := by
      refine ((List.forall₂_and_left _ _).mpr ⟨hplaced, hunits⟩).imp ?_
      rintro file result ⟨hfile, unit, hunit, rfl⟩
      obtain ⟨habsolute, hnormal, hslashes⟩ := normalize_of_isFileBelow hproper hfile
      exact isUnitOf_of_unitOf habsolute hnormal hrootAbsolute (hrootSlashes.trans hslashes.symm)
        hunit
    refine ⟨origins, hincreasing, hplaced, hnamed, ?_⟩
    -- the names can be turned back into the files, and those are all different
    have horigins : origins = ((batch.units.map (·.1)).map UnitResult.unit).map fun name =>
        Path.absolute (namingRoot w options source) (Path.ofString name) := by
      rw [List.map_map, ← List.forall₂_eq_eq_eq, List.forall₂_map_right_iff]
      exact hnamed.imp fun file unit hunit => hunit.leads.symm
    exact List.Nodup.of_map _ (horigins ▸ Path.nodup_of_increasing hincreasing)

/-- A unit named from a directory that lies beside that of its file. -/
theorem unit_named_from_beside :
    let options : BatchOptions := { root := some "/t".toList }
    let units := (runSource pairWorkspace options "/s/A.CS".toList {} {}).value.units.map (·.1)
    units.map UnitResult.unit = ["../s/A.CS"] ∧
      ∃ files, List.Forall₂ (IsUnitOf pairWorkspace none "/t".toList) files units := by
  intro options units
  have hfits : FitsSource pairWorkspace options "/s/A.CS".toList := by
    refine fitsSource_of_rootSlashes rfl fun root hgiven => ?_
    obtain rfl := Option.some.inj hgiven
    rfl
  have hroot : namingRoot pairWorkspace options "/s/A.CS".toList = "/t".toList := by
    decide +kernel
  obtain ⟨files, -, -, hunits, -⟩ := unit_names_file ⟨by decide, by decide, by decide +kernel⟩
    (by decide +kernel) hfits {} {}
  rw [hroot] at hunits
  exact ⟨by decide +kernel, files, hunits⟩

end DeclDocs
