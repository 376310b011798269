import DeclDocs.Proofs.BatchRun
import DeclDocs.Proofs.FoundFiles
import DeclDocs.Proofs.WellFormedRecords

/-!
Which grammar a file that was found is read with. Discovery looks at the name of a file and dispatch
at its whole path, but both see the same extension, so every file that is found without a choice of
grammar has one. The files found for a grammar are those that dispatch gives to it, and a run with
that grammar gives the units of it that the run without a choice gives.
-/
namespace DeclDocs

namespace Path

variable {base name path : Path}

theorem afterLastSlash_join (base : Path) (h : '/' ∉ name) :
    afterLastSlash (join base name) = name := by
  rw [join_of_slash_not_mem base h]
  split
  · rename_i hend
    rcases List.eq_nil_or_concat' base with rfl | ⟨body, c, rfl⟩
    · exact afterLastSlash_of_slash_not_mem h
    · obtain rfl : c = '/' := by simpa using hend
      rw [List.append_assoc, List.singleton_append, afterLastSlash_append body h]
  · exact afterLastSlash_append base h

/-- The last component of a normalised path is its last name. -/
theorem afterLastSlash_normalize (habsolute : isAbsolute path = true) {front : List Path}
    (h : names path = front ++ [name]) : afterLastSlash (normalize path) = name := by
  obtain ⟨empty, hcomponents, -⟩ := components_normalize habsolute
  have hlast := getLast?_components (normalize path)
  rw [hcomponents, h, ← List.append_assoc, List.getLast?_concat] at hlast
  exact (Option.some.inj hlast).symm

theorem isAbsolute_foldl_join (h : isAbsolute base = true) (parts : List Path) :
    isAbsolute (parts.foldl join base) = true := by
  induction parts generalizing base with
  | nil => exact h
  | cons part parts ih => exact ih (isAbsolute_join h part)

theorem nodup_of_increasing {paths : List Path} (h : paths.Pairwise (· < ·)) : paths.Nodup := by
  refine h.imp ?_
  rintro a b hlt rfl
  exact List.lt_irrefl a hlt

/-- Two strictly increasing lists with the same paths are equal. -/
theorem eq_of_increasing {first second : List Path} (hfirst : first.Pairwise (· < ·))
    (hsecond : second.Pairwise (· < ·)) (h : ∀ path, path ∈ first ↔ path ∈ second) :
    first = second := by
  have hperm : first.Perm second := (List.perm_ext_iff_of_nodup (nodup_of_increasing hfirst)
    (nodup_of_increasing hsecond)).mpr fun path => h path
  refine hperm.eq_of_pairwise ?_ hfirst hsecond
  intro a b _ _ hab hba
  exact absurd hba (List.lt_asymm hab)

theorem extension_congr {other : Path} (h : afterLastSlash path = afterLastSlash other) :
    extension path = extension other := by
  simp only [extension, h]

end Path

namespace Grammar

variable {g : Grammar} {extension : String}

/-- No two grammars share an extension. -/
theorem ofExtension?_eq_some_iff : ofExtension? extension = some g ↔ extension ∈ g.extensions := by
  by_cases hcsharp : extension = ".cs"
  · subst hcsharp
    cases g <;> decide +kernel
  · by_cases hvisualBasic : extension = ".vb"
    · subst hvisualBasic
      cases g <;> decide +kernel
    · cases g <;> simp [ofExtension?, all, extensions, hcsharp, hvisualBasic]

theorem lowerString_of_mem_extensions (h : extension ∈ g.extensions) :
    Text.lowerString extension = extension := by
  cases g with
  | csharp =>
    obtain rfl := List.mem_singleton.mp h
    decide +kernel
  | visualBasic =>
    obtain rfl := List.mem_singleton.mp h
    decide +kernel

theorem name_injective {g other : Grammar} (h : g.name = other.name) : g = other := by
  have hnamed := Extract.named_name g
  rw [h, Extract.named_name other] at hnamed
  exact (Except.ok.inj hnamed).symm

theorem mem_supportedExtensions_iff :
    extension ∈ supportedExtensions ↔ ∃ g : Grammar, extension ∈ g.extensions := by
  have hall : ∀ g, g ∈ all := by
    intro g
    cases g <;> decide
  simp [supportedExtensions, hall]

end Grammar

open Log Extract Journal Discovery

section Extensions

variable {name path other : Path}

theorem lowerExtension_congr (h : Path.afterLastSlash path = Path.afterLastSlash other) :
    lowerExtension path = lowerExtension other := by
  rw [lowerExtension, lowerExtension, Path.extension_congr h]

theorem isAccepted_extensions (g : Grammar) :
    IsAccepted (some g.extensions) name ↔
      ∃ extension ∈ g.extensions, lowerExtension name = Text.lowerString extension := by
  cases g <;> rfl

/-- The names accepted for a grammar are those that dispatch gives to it. -/
theorem isAccepted_grammar_iff (g : Grammar) :
    IsAccepted (some g.extensions) name ↔ Grammar.ofExtension? (lowerExtension name) = some g := by
  rw [isAccepted_extensions, Grammar.ofExtension?_eq_some_iff]
  constructor
  · rintro ⟨extension, hextension, hname⟩
    rwa [hname, Grammar.lowerString_of_mem_extensions hextension]
  · intro h
    exact ⟨_, h, (Grammar.lowerString_of_mem_extensions h).symm⟩

/-- Without a choice the names accepted are those that dispatch gives to some grammar. -/
theorem isAccepted_none_iff :
    IsAccepted none name ↔ ∃ g, Grammar.ofExtension? (lowerExtension name) = some g := by
  simp only [← isAccepted_grammar_iff, isAccepted_extensions]
  constructor
  · rintro ⟨extension, hextension, hname⟩
    obtain ⟨g, hg⟩ := Grammar.mem_supportedExtensions_iff.mp hextension
    exact ⟨g, extension, hg, hname⟩
  · rintro ⟨g, extension, hextension, hname⟩
    exact ⟨extension, Grammar.mem_supportedExtensions_iff.mpr ⟨g, hextension⟩, hname⟩

end Extensions

section Files

variable {store : Store} {directory file name : Path} {excluded : Option (List String)}
  (hproper : store.IsProper) (hdistinct : store.root.isDistinct = true)

include hproper

/-- The path of a file has the extension of its name, also when it is made absolute again. -/
theorem lowerExtension_of_isFileBelow (h : IsFileBelow store directory excluded file name) :
    lowerExtension file = lowerExtension name ∧
      lowerExtension (store.absolute file) = lowerExtension name := by
  obtain ⟨dirs, hfile, hnames⟩ := h.exists_way hproper.named
  have habsolute : Path.isAbsolute file = true := by
    rw [hfile]
    exact Path.isAbsolute_foldl_join (Store.isAbsolute_absolute hproper.rooted directory) _
  rw [← List.append_assoc] at hnames
  have hslash : '/' ∉ name := by
    have hmem : name ∈ Path.names file := by simp [hnames]
    exact Path.slash_not_mem_of_mem_names hmem
  have hname := Path.afterLastSlash_of_slash_not_mem hslash
  refine ⟨lowerExtension_congr ?_, lowerExtension_congr ?_⟩
  · rw [hname, hfile, List.foldl_concat, Path.afterLastSlash_join _ hslash]
  · rw [← Store.names_of_isAbsolute habsolute] at hnames
    rw [hname]
    exact Path.afterLastSlash_normalize (Path.isAbsolute_join hproper.rooted file) hnames

include hdistinct

/-- The files found for a grammar are those that dispatch gives to it. -/
theorem sourceFiles_of_grammar (g : Grammar) (directory : Path) (excluded : Option (List String)) :
    sourceFiles store directory (some g.extensions) excluded =
      (sourceFiles store directory none excluded).filter fun file =>
        Grammar.ofExtension? (lowerExtension file) == some g := by
  apply Path.eq_of_increasing
  · exact increasing_sourceFiles hproper.named hdistinct directory _ excluded
  · exact (increasing_sourceFiles hproper.named hdistinct directory none excluded).filter _
  · intro file
    rw [List.mem_filter, mem_sourceFiles_iff hdistinct, mem_sourceFiles_iff hdistinct, beq_iff_eq]
    constructor
    · rintro ⟨name, hbelow, haccepted⟩
      have hg := (isAccepted_grammar_iff g).mp haccepted
      refine ⟨⟨name, hbelow, isAccepted_none_iff.mpr ⟨g, hg⟩⟩, ?_⟩
      rwa [(lowerExtension_of_isFileBelow hproper hbelow).1]
    · rintro ⟨⟨name, hbelow, -⟩, hg⟩
      rw [(lowerExtension_of_isFileBelow hproper hbelow).1] at hg
      exact ⟨name, hbelow, (isAccepted_grammar_iff g).mpr hg⟩

/-- A file found without a choice of grammar has one, by its path as it is and by its absolute
path. -/
theorem exists_grammar_of_mem_sourceFiles
    (h : file ∈ sourceFiles store directory none excluded) :
    ∃ g, Grammar.ofExtension? (lowerExtension file) = some g ∧
      Grammar.ofExtension? (lowerExtension (store.absolute file)) = some g := by
  obtain ⟨name, hbelow, haccepted⟩ := (mem_sourceFiles_iff hdistinct).mp h
  obtain ⟨g, hg⟩ := isAccepted_none_iff.mp haccepted
  obtain ⟨hfile, habsolute⟩ := lowerExtension_of_isFileBelow hproper hbelow
  exact ⟨g, by rwa [hfile], by rwa [habsolute]⟩

end Files

section Units

variable {w : Workspace} {file : Path} {grammar : Option String} {root : Option Path} {g : Grammar}

theorem forPath_of_ofExtension? {path : Path}
    (h : Grammar.ofExtension? (lowerExtension path) = some g) : Grammar.forPath path = .ok g := by
  simp [Grammar.forPath, h]

theorem grammarFor_none (file : Path) : grammarFor file none = Grammar.forPath file := rfl

theorem grammarFor_name (file : Path) (g : Grammar) : grammarFor file (some g.name) = .ok g := by
  cases g <;> rfl

/-- What a file comes to once its grammar is known. -/
theorem unitOf_of_grammar (hgrammar : grammarFor (w.store.absolute file) grammar = .ok g) :
    unitOf w file grammar root =
      if w.store.isFile (w.store.absolute file) then
        (parsedBy w (w.store.absolute file) g).map fun parsed =>
          ⟨(extractUnit g parsed.tree (Path.text (Path.relative (w.store.absolute file)
            (rootFor w.store (w.store.absolute file) root)))).value, parsed.tree.faultCount⟩
      else .error (.fileNotFound (w.store.absolute file)) := by
  simp only [unitOf, hgrammar]
  rfl

/-- A unit is that of the tree of its file, named by the way to it. -/
theorem exists_tree_of_unitOf {unit : ExtractedUnit} (h : unitOf w file grammar root = .ok unit) :
    ∃ g tree, grammarFor (w.store.absolute file) grammar = .ok g ∧
      unit.result = (extractUnit g tree (Path.text (Path.relative (w.store.absolute file)
        (rootFor w.store (w.store.absolute file) root)))).value := by
  cases hgrammar : grammarFor (w.store.absolute file) grammar with
  | error e =>
    simp only [unitOf, hgrammar] at h
    split at h <;> cases h
  | ok g =>
    rw [unitOf_of_grammar hgrammar] at h
    split at h
    · cases hparsed : parsedBy w (w.store.absolute file) g with
      | error e => simp [hparsed, Except.map] at h
      | ok parsed =>
        rw [hparsed] at h
        obtain rfl := Except.ok.inj h
        exact ⟨g, parsed.tree, rfl, rfl⟩
    · cases h

/-- A unit tells the grammar that it was read with. -/
theorem grammar_of_unitOf {unit : ExtractedUnit}
    (hgrammar : grammarFor (w.store.absolute file) grammar = .ok g)
    (h : unitOf w file grammar root = .ok unit) : unit.result.grammar = g.name := by
  obtain ⟨other, tree, hother, hresult⟩ := exists_tree_of_unitOf h
  obtain rfl := Except.ok.inj (hgrammar.symm.trans hother)
  rw [hresult, extractUnit_value]
  rfl

/-- A file that has a grammar is not rejected for its extension. -/
theorem unitOf_ne_unhandled (hgrammar : grammarFor (w.store.absolute file) grammar = .ok g)
    (extension : String) (path : Path) :
    unitOf w file grammar root ≠ .error (.unhandledExtension extension path) := by
  rw [unitOf_of_grammar hgrammar]
  split
  · unfold parsedBy
    cases w.store.read (w.store.absolute file) with
    | error e => simp [Except.mapError, Except.map, bind, Except.bind]
    | ok source =>
      cases hparse : w.parser.parse g source with
      | error fault => simp [hparse, Except.mapError, Except.map, bind, Except.bind]
      | ok tree => simp [hparse, Except.mapError, Except.map, bind, Except.bind, pure, Except.pure]
  · simp

theorem unitOf_congr {other : Option String}
    (h : grammarFor (w.store.absolute file) grammar = grammarFor (w.store.absolute file) other) :
    unitOf w file grammar root = unitOf w file other root := by
  simp only [unitOf, h]

/-- Choosing files by their grammar comes to choosing units by it. -/
theorem units_filter_grammar (root : Option Path) {files : List Path}
    (h : ∀ file ∈ files, ∃ other, Grammar.ofExtension? (lowerExtension file) = some other ∧
      Grammar.ofExtension? (lowerExtension (w.store.absolute file)) = some other) (g : Grammar) :
    (units ((files.filter fun file => Grammar.ofExtension? (lowerExtension file) == some g).map
        fun file => unitOf w file (some g.name) root)).map ExtractedUnit.result =
      ((units (files.map fun file => unitOf w file none root)).map ExtractedUnit.result).filter
        fun unit => unit.grammar == g.name := by
  induction files with
  | nil => rfl
  | cons file files ih =>
    obtain ⟨other, hfile, habsolute⟩ := h file List.mem_cons_self
    have hlater := ih fun later hmem => h later (List.mem_cons_of_mem file hmem)
    have hgrammar : grammarFor (w.store.absolute file) none = .ok other := by
      rw [grammarFor_none, forPath_of_ofExtension? habsolute]
    by_cases hother : other = g
    · -- the file is read with one grammar in both runs
      subst hother
      have hsame : unitOf w file (some other.name) root = unitOf w file none root :=
        unitOf_congr (by rw [hgrammar, grammarFor_name])
      rw [List.filter_cons_of_pos (by simp [hfile]), List.map_cons, List.map_cons, hsame]
      cases hunit : unitOf w file none root with
      | error e => simpa using hlater
      | ok unit => simpa [grammar_of_unitOf hgrammar hunit] using hlater
    · -- the file is passed over in one run, and its unit in the other
      rw [List.filter_cons_of_neg (by simp [hfile, hother]), List.map_cons]
      cases hunit : unitOf w file none root with
      | error e => simpa using hlater
      | ok unit =>
        have hname : unit.result.grammar ≠ g.name := by
          rw [grammar_of_unitOf hgrammar hunit]
          exact fun heq => hother (Grammar.name_injective heq)
        simpa [hname] using hlater

/-- A directory is extracted file by file. -/
theorem exists_yields_runSource_of_directory (options : BatchOptions) {source : Path}
    {chosen : Option Grammar} (hgoOn : options.goOn = true)
    (hdirectory : w.store.isDirectory (w.store.absolute source) = true)
    (hchosen : (chosenGrammar options.grammar).mapM Grammar.named = .ok chosen) (stats : Stats) :
    let place := w.store.absolute source
    let root := ((options.root.filter fun root => !root.isEmpty).map w.store.absolute).getD place
    ∃ batch, Yields (runSource w options source stats) batch ∧ batch.failure = none ∧
      batch.units.map (·.1) = (units
        ((sourceFiles w.store place (chosen.map Grammar.extensions) options.excluded).map
          fun file => unitOf w file options.grammar (some root))).map ExtractedUnit.result := by
  intro place root
  have hfile : w.store.isFile place = false := by
    unfold Store.isDirectory at hdirectory
    unfold Store.isFile
    cases htree : w.store.lookup? place with
    | none => rfl
    | some tree =>
      cases tree with
      | file octets => simp [place, htree, FileTree.isDirectory] at hdirectory
      | directory entries => rfl
  obtain ⟨batch, hbatch, hunits, -, hfailure⟩ := exists_yields_runFiles w hgoOn root
    (sourceFiles w.store place (chosen.map Grammar.extensions) options.excluded) stats
  exact ⟨batch, yields_runSource_of_directory hfile hdirectory hchosen hbatch, hfailure, hunits⟩

end Units

/-- Every file that is found without a choice of grammar has one, by which it can be read. A run
with a grammar gives the units of that grammar that the run without a choice gives, in order. -/
theorem dispatch_agrees {w : Workspace} (hproper : w.store.IsProper)
    (hdistinct : w.store.root.isDistinct = true) (directory : Path)
    (excluded : Option (List String)) :
    (∀ file ∈ (discover w.store directory none excluded).value,
      (∃ g, Grammar.forPath file = .ok g) ∧
      ∀ root context extension path, ((extractUnitFile w file none root).run context).value ≠
        .error (.unhandledExtension extension path)) ∧
    ∀ (g : Grammar) (root : Option Path) (stats stats' : Stats) (context context' : Context),
      w.store.isDirectory (w.store.absolute directory) = true →
      let whole := (runSource w { root, excluded, goOn := true } directory stats context).value
      let chosen := (runSource w { grammar := some g.name, root, excluded, goOn := true } directory
        stats' context').value
      whole.failure = none ∧ chosen.failure = none ∧
        chosen.units.map (·.1) =
          (whole.units.map (·.1)).filter fun unit => unit.grammar == g.name := by
  constructor
  · intro file hfile
    obtain ⟨g, hextension, habsolute⟩ := exists_grammar_of_mem_sourceFiles hproper hdistinct hfile
    refine ⟨⟨g, forPath_of_ofExtension? hextension⟩, fun root context extension path => ?_⟩
    have hgrammar : grammarFor (w.store.absolute file) none = .ok g := by
      rw [grammarFor_none, forPath_of_ofExtension? habsolute]
    rw [yields_extractUnitFile w file none root context]
    exact unitOf_ne_unhandled hgrammar extension path
  · intro g root stats stats' context context' hdirectory
    have hnone : (chosenGrammar none).mapM Grammar.named = .ok none := rfl
    have hsome : (chosenGrammar (some g.name)).mapM Grammar.named = .ok (some g) := by
      cases g <;> rfl
    obtain ⟨whole, hwhole, hwholeFailure, hwholeUnits⟩ :=
      exists_yields_runSource_of_directory { root, excluded, goOn := true } rfl hdirectory hnone
        stats
    obtain ⟨chosen, hchosen, hchosenFailure, hchosenUnits⟩ :=
      exists_yields_runSource_of_directory { grammar := some g.name, root, excluded, goOn := true }
        rfl hdirectory hsome stats'
    rw [hwhole context, hchosen context']
    refine ⟨hwholeFailure, hchosenFailure, ?_⟩
    rw [hwholeUnits, hchosenUnits, Option.map_some, sourceFiles_of_grammar hproper hdistinct]
    exact units_filter_grammar _ (fun file hfile =>
      exists_grammar_of_mem_sourceFiles hproper hdistinct hfile) g

def pairDirectory : FileTree :=
  .directory [("b.vb".toList, .file []), ("A.CS".toList, .file [])]

def pairWorkspace : Workspace where
  store := { root := .directory [("s".toList, pairDirectory)], workingDirectory := ['/'] }
  parser :=
    { parse := fun _ _ => Except.ok
        { source := [], rows := #[⟨none, "compilation_unit", 0, 0, true, false, false, ""⟩],
          hasError := false, nonempty := by decide, placed := by decide } }

theorem sourceFiles_pairWorkspace :
    sourceFiles pairWorkspace.store "/s".toList none none =
      ["/s/A.CS".toList, "/s/b.vb".toList] := by
  have habsolute : pairWorkspace.store.absolute "/s".toList = "/s".toList := by decide +kernel
  have hlookup : pairWorkspace.store.lookup? "/s".toList = some pairDirectory := by rfl
  have hfirst : accepts (acceptedExtensions none) "A.CS".toList = true := by decide +kernel
  have hsecond : accepts (acceptedExtensions none) "b.vb".toList = true := by decide +kernel
  rw [sourceFiles_eq, habsolute, hlookup]
  simp only [Option.map_some, Option.getD_some, pairDirectory, FileTree.search,
    FileTree.searchEntries, hfirst, hsecond, if_true]
  exact Path.mergeSort_pair (by decide +kernel)

theorem dispatch_in_pairWorkspace :
    let whole := (runSource pairWorkspace {} "s".toList {} {}).value.units.map (·.1)
    let chosen :=
      (runSource pairWorkspace { grammar := some "vb" } "s".toList {} {}).value.units.map (·.1)
    (∃ g, Grammar.forPath "/s/A.CS".toList = .ok g) ∧
      whole.map UnitResult.unit = ["A.CS", "b.vb"] ∧ chosen.map UnitResult.unit = ["b.vb"] ∧
      chosen = whole.filter fun unit => unit.grammar == "vb" := by
  intro whole chosen
  have hdistinct : pairWorkspace.store.root.isDistinct = true := by decide +kernel
  have hdirectory : pairWorkspace.store.isDirectory (pairWorkspace.store.absolute "s".toList) =
      true := by decide +kernel
  have hbelow : IsFileBelow pairWorkspace.store "s".toList none "/s/A.CS".toList "A.CS".toList :=
    ⟨pairDirectory, [], [], rfl, rfl, by decide +kernel, by simp⟩
  have hmem : "/s/A.CS".toList ∈ (discover pairWorkspace.store "s".toList none none).value :=
    (mem_sourceFiles_iff hdistinct).mpr ⟨_, hbelow, accepts_iff.mp (by decide +kernel)⟩
  obtain ⟨hfound, hruns⟩ :=
    dispatch_agrees ⟨by decide, by decide, by decide +kernel⟩ hdistinct "s".toList none
  have hchosen : chosen = whole.filter fun unit => unit.grammar == "vb" :=
    (hruns .visualBasic none {} {} {} {} hdirectory).2.2
  have hnone : (chosenGrammar none).mapM Grammar.named = .ok none := rfl
  obtain ⟨batch, hbatch, -, hunits⟩ :=
    exists_yields_runSource_of_directory {} rfl hdirectory hnone {}
  have hwhole : whole = (units (["/s/A.CS".toList, "/s/b.vb".toList].map fun file =>
      unitOf pairWorkspace file none (some "/s".toList))).map ExtractedUnit.result := by
    rw [← sourceFiles_pairWorkspace]
    change (runSource pairWorkspace {} "s".toList {} {}).value.units.map (·.1) = _
    rw [hbatch {}]
    exact hunits
  rw [hchosen, hwhole]
  exact ⟨(hfound _ hmem).1, by decide +kernel, by decide +kernel, rfl⟩

end DeclDocs
