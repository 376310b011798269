import DeclDocs.Proofs.BatchRun
import DeclDocs.Proofs.OutputFile

/-!
The accounts of a run that goes on after failures. Its output lies outside its sources, so starting
the output leaves every source as it was. The file then has one line for each unit, the units are
those that extracting the files one by one gives, and all counts of the summary agree with them.
-/
namespace DeclDocs

open Log Text Journal

section Faults

variable (w : Workspace) (spec : SourceSpec)

def faultsOf (path : Path) : Nat :=
  let file := w.store.absolute path
  let parsed := grammarFor file spec.grammar >>= parsedBy w file
  (parsed.map fun p => p.tree.faultCount).toOption.getD 0

theorem faults_unitOf (path : Path) (root : Option Path) :
    ((unitOf w path spec.grammar root).map ExtractedUnit.faults).toOption.getD 0 =
      faultsOf w spec path := by
  unfold unitOf faultsOf
  simp only
  cases grammarFor (w.store.absolute path) spec.grammar with
  | error e =>
    split
    · rfl
    · rfl
  | ok g =>
    simp only [bind, Except.bind]
    by_cases hfile : w.store.isFile (w.store.absolute path) = true
    · rw [if_pos hfile]
      cases parsedBy w (w.store.absolute path) g with
      | error e => rfl
      | ok parsed => rfl
    · rw [if_neg hfile]
      cases hread : w.store.read (w.store.absolute path) with
      | error e =>
        simp [parsedBy, hread, Except.mapError, bind, Except.bind, Except.map, Except.toOption]
      | ok octets =>
        have hlookup := Store.read_eq_ok_iff.mp hread
        exact absurd (Store.isFile_eq_true_iff.mpr ⟨octets, hlookup⟩) hfile

theorem sum_faults (excluded : Option (List String)) :
    ((units (outcomesOf w excluded spec)).map ExtractedUnit.faults).sum =
      ((filesIn w excluded spec).map (faultsOf w spec)).sum := by
  unfold outcomesOf
  induction filesIn w excluded spec with
  | nil => rfl
  | cons file files ih =>
    have hfile := faults_unitOf w spec file (some (rootOf w spec))
    rw [List.map_cons, List.map_cons, List.sum_cons, ← hfile, ← ih]
    cases unitOf w file spec.grammar (some (rootOf w spec)) with
    | error e => simp [Except.map, Except.toOption]
    | ok unit => simp [Except.map, Except.toOption]

end Faults

/-- The accounts of a run: the octets of its output file and its summary agree with what extracting
the files of its sources one by one gives. -/
structure Accounted (w : Workspace) (plan : Plan) (octets : List UInt8) (summary : Summary) :
    Prop where
  lines : splitOn Output.lineBreak octets =
    ((plan.sources.flatMap (unitsOf w plan.excluded)).map fun unit =>
      Utf8.encode (Json.compact unit.toJson)) ++ [[]]
  sorted : ∀ spec ∈ plan.sources,
    (filesIn w plan.excluded spec).Pairwise fun a b => Path.le a b = true
  lineCount : octets.count Output.lineBreak = summary.unitsWritten
  processed : summary.stats.processed = summary.unitsWritten
  sourceUnits : (summary.sources.map SourceReport.units).sum = summary.unitsWritten
  sources : summary.sources = plan.sources.map (reportOf w plan.excluded)
  failedSource : ∀ report ∈ summary.sources, report.hasFailed = true → report.units = 0
  attempted : summary.stats.processed + summary.stats.failed =
    (plan.sources.map fun spec => (filesIn w plan.excluded spec).length).sum
  declarations : summary.stats.declarations =
    ((plan.sources.flatMap (unitsOf w plan.excluded)).map UnitResult.declarationCount).sum
  declarationErrors : summary.stats.declarationErrors =
    ((plan.sources.flatMap (unitsOf w plan.excluded)).map fun unit => unit.errors.length).sum
  parseErrors : summary.stats.parseErrors =
    (plan.sources.map fun spec => ((filesIn w plan.excluded spec).map (faultsOf w spec)).sum).sum
  errors : summary.errors =
    (plan.sources.flatMap (unitsOf w plan.excluded)).flatMap UnitResult.errors
  outputFile : summary.outputFile = plan.outputFile
  status : summary.status =
    if summary.stats.failed + summary.sources.countP SourceReport.hasFailed = 0 then .success
    else if summary.stats.processed = 0 then .failed
    else .partialSuccess

section Accounts

variable (w : Workspace) (plan : Plan)

def planOutcomes : List (Except Failure ExtractedUnit) :=
  plan.sources.flatMap (outcomesOf w plan.excluded)

def harvestOf : Harvest where
  reports := plan.sources.map (reportOf w plan.excluded)
  units := plan.sources.flatMap (unitsOf w plan.excluded)
  stats := Stats.plus {} (planOutcomes w plan)
  failure := none

theorem flatMap_unitsOf (excluded : Option (List String)) (specs : List SourceSpec) :
    specs.flatMap (unitsOf w excluded) =
      (units (specs.flatMap (outcomesOf w excluded))).map ExtractedUnit.result := by
  induction specs with
  | nil => rfl
  | cons spec specs ih =>
    rw [List.flatMap_cons, List.flatMap_cons, ih, unitsOf_eq, units_append, List.map_append]

theorem sum_planFaults (excluded : Option (List String)) (specs : List SourceSpec) :
    ((units (specs.flatMap (outcomesOf w excluded))).map ExtractedUnit.faults).sum =
      (specs.map fun spec => ((filesIn w excluded spec).map (faultsOf w spec)).sum).sum := by
  induction specs with
  | nil => rfl
  | cons spec specs ih =>
    rw [List.flatMap_cons, units_append, List.map_append, List.sum_append, ih, sum_faults,
      List.map_cons, List.sum_cons]

theorem length_planOutcomes (excluded : Option (List String)) (specs : List SourceSpec) :
    (specs.flatMap (outcomesOf w excluded)).length =
      (specs.map fun spec => (filesIn w excluded spec).length).sum := by
  simp [List.length_flatMap, outcomesOf]

theorem units_of_hasFailed (excluded : Option (List String)) (spec : SourceSpec)
    (h : (reportOf w excluded spec).hasFailed = true) : (reportOf w excluded spec).units = 0 := by
  cases hfiles : filesOf w excluded spec with
  | ok files =>
    simp only [reportOf, SourceReport.hasFailed, failureOf, hfiles, failure?] at h
    simp at h
  | error e =>
    simp only [reportOf, unitsOf_eq, outcomesOf_of_failure hfiles]
    rfl

theorem ofCounts_eq (processed failed failedSources : Nat) :
    Status.ofCounts ((processed + failed + failedSources : Nat) : Int) processed =
      if failed + failedSources = 0 then .success
      else if processed = 0 then .failed
      else .partialSuccess := by
  have hnothing : ((processed + failed + failedSources : Nat) : Int) = 0 ↔
      processed = 0 ∧ failed + failedSources = 0 := by omega
  have hnone : (processed : Int) ≤ 0 ↔ processed = 0 := by omega
  have hless : (processed : Int) < ((processed + failed + failedSources : Nat) : Int) ↔
      failed + failedSources ≠ 0 := by omega
  simp only [Status.ofCounts, hnothing, hnone, hless]
  by_cases hfailed : failed + failedSources = 0
  · by_cases hprocessed : processed = 0
    · simp [hfailed, hprocessed]
    · simp [hfailed, hprocessed]
  · rw [if_neg (fun h => hfailed h.2), if_pos hfailed, if_neg hfailed]

theorem accounted_harvestOf :
    Accounted w plan (Utf8.encode (Output.lines ((harvestOf w plan).units.map UnitResult.toJson)))
      (Summary.ofHarvest plan.outputFile (harvestOf w plan)) := by
  have hunits := flatMap_unitsOf w plan.excluded plan.sources
  have hlines := Output.splitOn_encode_lines ((harvestOf w plan).units.map UnitResult.toJson)
  have hlength : (plan.sources.flatMap (unitsOf w plan.excluded)).length =
      (units (planOutcomes w plan)).length := by rw [hunits, List.length_map]; rfl
  constructor
  case lines =>
    rw [hlines, List.map_map]
    rfl
  case sorted => exact fun spec _ => sorted_filesIn w plan.excluded spec
  case lineCount =>
    have hcount := length_splitOn Output.lineBreak
      (Utf8.encode (Output.lines ((harvestOf w plan).units.map UnitResult.toJson)))
    rw [hlines] at hcount
    simpa [Summary.ofHarvest] using hcount.symm
  case processed => simp [Summary.ofHarvest, harvestOf, Stats.plus, hlength]
  case sourceUnits =>
    simp [Summary.ofHarvest, harvestOf, reportOf, List.length_flatMap, Function.comp_def]
  case sources => rfl
  case failedSource =>
    intro report hreport
    obtain ⟨spec, -, rfl⟩ := List.mem_map.mp hreport
    exact units_of_hasFailed w plan.excluded spec
  case attempted =>
    have hall := length_units_add_failures (planOutcomes w plan)
    rw [← length_planOutcomes, ← planOutcomes, ← hall]
    simp [Summary.ofHarvest, harvestOf, Stats.plus]
  case declarations =>
    rw [hunits, List.map_map]
    simp [Summary.ofHarvest, harvestOf, Stats.plus, planOutcomes, Function.comp_def]
  case declarationErrors =>
    rw [hunits, List.map_map]
    simp [Summary.ofHarvest, harvestOf, Stats.plus, planOutcomes, Function.comp_def]
  case parseErrors =>
    rw [← sum_planFaults]
    simp [Summary.ofHarvest, harvestOf, Stats.plus, planOutcomes]
  case errors => rfl
  case outputFile => rfl
  case status =>
    rw [List.countP_eq_length_filter]
    exact ofCounts_eq _ _ _

end Accounts

section Executing

variable {w : Workspace} {plan : Plan} {started : Store}

/-- Whether the output of a plan lies outside a source: not at its place and not below. -/
def IsOutside (w : Workspace) (plan : Plan) (spec : SourceSpec) : Prop :=
  ¬ w.store.names (Path.ofString spec.path) <+: w.store.names (Path.ofString plan.outputFile)

/-- Starting the output does not change what is harvested. -/
theorem harvestOf_of_start (hproper : w.store.IsProper)
    (hstart : Output.start w.store (Path.ofString plan.outputFile) = .ok started)
    (houtside : ∀ spec ∈ plan.sources, IsOutside w plan spec) :
    harvestOf (w.withStore started) plan = harvestOf w plan := by
  have hagrees := Output.agreesOff_start hproper.rooted hstart
  have ht := Output.isDirectory_of_start hstart
  have hreports : plan.sources.map (reportOf (w.withStore started) plan.excluded) =
      plan.sources.map (reportOf w plan.excluded) := List.map_congr_left fun spec hspec =>
    reportOf_withStore hproper hagrees ht (houtside spec hspec)
  have hunits : plan.sources.flatMap (unitsOf (w.withStore started) plan.excluded) =
      plan.sources.flatMap (unitsOf w plan.excluded) := by
    apply List.flatMap_congr
    exact fun spec hspec => unitsOf_withStore hproper hagrees ht (houtside spec hspec)
  have houtcomes : planOutcomes (w.withStore started) plan = planOutcomes w plan := by
    apply List.flatMap_congr
    exact fun spec hspec => outcomesOf_withStore hproper hagrees ht (houtside spec hspec)
  rw [harvestOf, harvestOf, hreports, hunits, houtcomes]

/-- What is harvested ends up in the file. -/
theorem exists_yields_harvestInto (hproper : w.store.IsProper) (hgoOn : plan.goOn = true)
    (hstart : Output.start w.store (Path.ofString plan.outputFile) = .ok started)
    (houtside : ∀ spec ∈ plan.sources, IsOutside w plan spec) :
    ∃ written, Yields (harvestInto w plan (Path.ofString plan.outputFile) started)
        (written, .ok (harvestOf w plan)) ∧
      written.read (Path.ofString plan.outputFile) =
        .ok (Utf8.encode (Output.lines ((harvestOf w plan).units.map UnitResult.toJson))) := by
  obtain ⟨written, hfill, hread⟩ :=
    Output.exists_fill hstart ((harvestOf w plan).units.map UnitResult.toJson)
  have hrun : Yields (runSources (w.withStore started) true plan.excluded plan.sources {})
      (harvestOf w plan) := by
    rw [← harvestOf_of_start hproper hstart houtside]
    exact yields_runSources (w.withStore started) plan.excluded plan.sources {}
  refine ⟨written, ?_, hread⟩
  unfold harvestInto
  rw [hgoOn]
  apply hrun.bind
  have hfilled : fillOutput started (Path.ofString plan.outputFile) (harvestOf w plan) =
      .ok written := by
    simp only [fillOutput, hfill]
  rw [hfilled]
  exact yields_pure _

/-- A run that goes on after failures ends with a summary, and its accounts are right: whatever the
sources are, whatever the files hold and whatever the parser makes of them. -/
theorem execute_accounted (w : Workspace) (plan : Plan) (context : Context)
    (hproper : w.store.IsProper) (hgoOn : plan.goOn = true)
    (hwritable : ∃ started, Output.start w.store (Path.ofString plan.outputFile) = .ok started)
    (houtside : ∀ spec ∈ plan.sources, IsOutside w plan spec) :
    ∃ store octets summary, (execute w plan context).value = (store, .ok summary) ∧
      store.read (Path.ofString plan.outputFile) = .ok octets ∧
      Accounted w plan octets summary := by
  obtain ⟨started, hstart⟩ := hwritable
  obtain ⟨written, hinto, hread⟩ := exists_yields_harvestInto hproper hgoOn hstart houtside
  have hexecute : Yields (execute w plan)
      (written, .ok (Summary.ofHarvest plan.outputFile (harvestOf w plan))) := by
    unfold execute
    apply (yields_report _).bind
    rw [hstart]
    apply (hinto.inPhase "extract").bind
    exact (yields_report _).bind ((yields_report _).bind (yields_pure _))
  exact ⟨written, _, _, hexecute context, hread, accounted_harvestOf w plan⟩

def lonelyClass : Syntax.Tree where
  source := "class C { }".toList.map fun c => c.toNat.toUInt8
  rows := #[⟨none, "compilation_unit", 0, 11, true, false, false, ""⟩,
    ⟨some 0, "class_declaration", 0, 11, true, false, false, ""⟩,
    ⟨some 1, "identifier", 6, 7, true, false, false, "name"⟩]
  hasError := false
  nonempty := by decide
  placed := by decide +kernel

def mixedWorkspace : Workspace where
  store :=
    { root := .directory [("src".toList, .directory [("B.cs".toList, .file []),
        ("A.cs".toList, .file [1]), ("bin".toList, .directory [("C.cs".toList, .file [1])])])]
      workingDirectory := ['/'] }
  parser :=
    { parse := fun _ source =>
        if source.isEmpty then .error ⟨.broken, "nothing to parse"⟩ else .ok lonelyClass }

def mixedPlan : Plan where
  sources := [{ path := "src" }, { path := "gone" }]
  outputFile := "out/units.jsonl"
  goOn := true

/-- The files come in order, however the directory lists them. -/
theorem filesIn_mixedWorkspace : filesIn mixedWorkspace none { path := "src" } =
    ["/src/A.cs".toList, "/src/B.cs".toList] := by
  have hfiles : filesIn mixedWorkspace none { path := "src" } =
      Discovery.sourceFiles mixedWorkspace.store "/src".toList none none := by
    rw [filesIn, filesOf, if_neg (by decide +kernel), if_pos (by decide +kernel)]
    rfl
  have habsolute : mixedWorkspace.store.absolute "/src".toList = "/src".toList := by decide +kernel
  have hlookup : mixedWorkspace.store.lookup? "/src".toList =
      some (.directory [("B.cs".toList, .file []), ("A.cs".toList, .file [1]),
        ("bin".toList, .directory [("C.cs".toList, .file [1])])]) := by rfl
  have henters : Discovery.enters (Discovery.excludedNames none) "bin".toList = false := by
    decide +kernel
  have hfirst : Discovery.accepts (Discovery.acceptedExtensions none) "A.cs".toList = true := by
    decide +kernel
  have hsecond : Discovery.accepts (Discovery.acceptedExtensions none) "B.cs".toList = true := by
    decide +kernel
  rw [hfiles, sourceFiles_eq, habsolute, hlookup]
  simp only [Option.map_some, Option.getD_some, FileTree.search, FileTree.searchEntries, henters,
    hfirst, hsecond, Bool.false_eq_true, if_true, if_false, List.nil_append, List.cons_append]
  exact Path.mergeSort_pair (by decide +kernel)

theorem mixedPlan_accounted :
    ∃ store octets summary, (execute mixedWorkspace mixedPlan {}).value = (store, .ok summary) ∧
      store.read "out/units.jsonl".toList = .ok octets ∧
      Accounted mixedWorkspace mixedPlan octets summary ∧
      summary.unitsWritten = 1 ∧ summary.stats.failed = 1 ∧ summary.status = .partialSuccess := by
  have hproper : mixedWorkspace.store.IsProper := ⟨by decide, by decide, by decide +kernel⟩
  have hwritable : ∃ started,
      Output.start mixedWorkspace.store (Path.ofString mixedPlan.outputFile) = .ok started := by
    cases hstart : Output.start mixedWorkspace.store (Path.ofString mixedPlan.outputFile) with
    | ok started => exact ⟨started, rfl⟩
    | error e =>
      have hok : (Output.start mixedWorkspace.store
          (Path.ofString mixedPlan.outputFile)).isOk = true := by decide +kernel
      simp [hstart, Except.isOk, Except.toBool] at hok
  have houtside : ∀ spec ∈ mixedPlan.sources, IsOutside mixedWorkspace mixedPlan spec := by
    unfold IsOutside
    decide +kernel
  obtain ⟨store, octets, summary, hexecute, hread, haccounted⟩ :=
    execute_accounted mixedWorkspace mixedPlan {} hproper rfl hwritable houtside
  have hgone : filesIn mixedWorkspace none { path := "gone" } = [] := by decide +kernel
  have hunits : summary.unitsWritten = 1 := by
    have hsrc : (unitsOf mixedWorkspace none { path := "src" }).length = 1 := by
      rw [unitsOf, filesIn_mixedWorkspace]
      decide +kernel
    have hnone : (unitsOf mixedWorkspace none { path := "gone" }).length = 0 := by
      rw [unitsOf, hgone]
      rfl
    rw [← haccounted.sourceUnits, haccounted.sources]
    change (unitsOf mixedWorkspace none { path := "src" }).length +
      ((unitsOf mixedWorkspace none { path := "gone" }).length + 0) = 1
    rw [hsrc, hnone]
  have hprocessed : summary.stats.processed = 1 := haccounted.processed.trans hunits
  have hfailed : summary.stats.failed = 1 := by
    have hattempted := haccounted.attempted
    simp only [mixedPlan, List.map_cons, List.map_nil, filesIn_mixedWorkspace, hgone] at hattempted
    simp at hattempted
    omega
  have hstatus := haccounted.status
  rw [if_neg (by omega), if_neg (by omega)] at hstatus
  exact ⟨store, octets, summary, hexecute, hread, haccounted, hunits, hfailed, hstatus⟩

end Executing

end DeclDocs
