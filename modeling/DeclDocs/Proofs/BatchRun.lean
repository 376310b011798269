import DeclDocs.Proofs.SourceFiles
import Mathlib.Algebra.Ring.Nat

/-!
What a batch comes to, its log left aside. A file gives a unit exactly if it is there, a grammar
handles it, it can be read and the parser has a tree for it. A run that goes on after failures
gives the units of all other files in order, and its counts are the sums over all files.
-/
namespace DeclDocs

open Log Extract Syntax

namespace Log

variable {α β : Type}

/-- The value of a journal, which is the same in every context. -/
def Journal.Yields (x : Journal α) (a : α) : Prop := ∀ context, (x context).value = a

namespace Journal

theorem yields_pure (a : α) : Yields (pure a) a := fun _ => rfl

theorem yields_report (event : Event) : Yields (report event) () := fun _ => rfl

theorem yields_ofLogged (x : Logged α) : Yields (ofLogged x) x.value := fun _ => rfl

theorem Yields.bind {x : Journal α} {a : α} {f : α → Journal β} {b : β} (hx : Yields x a)
    (hf : Yields (f a) b) : Yields (x >>= f) b := by
  intro context
  change (f (x context).value (x context).context).value = b
  rw [hx context, hf]

theorem Yields.inUnit {x : Journal α} {a : α} (h : Yields x a) (unit : String) :
    Yields (Journal.inUnit unit x) a := fun context => h { context with unit }

theorem Yields.inPhase {x : Journal α} {a : α} (h : Yields x a) (phase : String) :
    Yields (Journal.inPhase phase x) a := fun context => h { context with phase }

end Journal

end Log

open Journal

namespace Working

variable {α β : Type}

theorem yields_bind {x : Working α} {f : α → Working β} {r : Except Failure α}
    {rest : α → Except Failure β} (hx : Yields x.run r) (hf : ∀ a, Yields (f a).run (rest a)) :
    Yields (x >>= f).run (r >>= rest) := by
  apply hx.bind
  cases r with
  | error e => exact yields_pure _
  | ok a => exact hf a

theorem yields_ofExcept (r : Except Failure α) : Yields (ofExcept r : Working α).run r := by
  cases r with
  | error e => exact fun _ => rfl
  | ok a => exact fun _ => rfl

end Working

namespace Extract

variable {α β : Type}

theorem reading_bind (x : Reading α) (f : α → Reading β) :
    (x >>= f).run.value = x.run.value >>= fun a => (f a).run.value := by
  change (ExceptT.bindCont f x.run.value).value = x.run.value >>= fun a => (f a).run.value
  cases x.run.value with
  | error e => rfl
  | ok a => rfl

theorem reading_ofExcept (r : Except Failure α) : (ofExcept r : Reading α).run.value = r := by
  cases r with
  | error e => rfl
  | ok a => rfl

theorem reading_lift (x : Logged α) : (liftM x : Reading α).run.value = .ok x.value := rfl

theorem readSource_value (store : Store) (path : Path) :
    (readSource store path).run.value = (store.read path).mapError .refused := by
  unfold readSource
  cases store.read path with
  | ok source => rfl
  | error e =>
    simp only
    split
    · rfl
    · rfl

theorem parseSource_value (parser : Parser) (g : Grammar) (source : List UInt8) :
    (parseSource parser g source).run.value = (parser.parse g source).mapError .parser := by
  unfold parseSource
  rw [reading_bind, reading_lift]
  cases parser.parse g source with
  | error fault => rfl
  | ok tree => rfl

theorem named_name (g : Grammar) : Grammar.named g.name = .ok g := by
  cases g with
  | csharp => rfl
  | visualBasic => rfl

end Extract

def parsedBy (w : Workspace) (file : Path) (g : Grammar) : Except Failure ParsedFile := do
  let source ← (w.store.read file).mapError .refused
  let tree ← (w.parser.parse g source).mapError .parser
  return ⟨tree, source, g⟩

/-- What a file gives: the unit, or why there is none. -/
def unitOf (w : Workspace) (path : Path) (grammar : Option String) (root : Option Path) :
    Except Failure ExtractedUnit :=
  let file := w.store.absolute path
  let unit := Path.text (Path.relative file (rootFor w.store file root))
  if w.store.isFile file then do
    let g ← grammarFor file grammar
    let parsed ← parsedBy w file g
    return ⟨(extractUnit g parsed.tree unit).value, parsed.tree.faultCount⟩
  else .error (.fileNotFound file)

section File

variable (w : Workspace) (path : Path) (grammar : Option String) (root : Option Path)

theorem parseFile_value (g : Grammar) :
    (parseFile w.store w.parser path (some g.name)).run.value = parsedBy w path g := by
  have hname : ∀ name, grammarName path (some name) = .ok name := fun _ => rfl
  unfold parseFile parsedBy
  simp only [reading_bind, reading_ofExcept, readSource_value, parseSource_value, hname,
    reading_lift]
  cases w.store.read path with
  | error e => rfl
  | ok source =>
    change (Grammar.named g.name >>= fun g => _) = _
    rw [named_name]
    cases w.parser.parse g source with
    | error fault => rfl
    | ok tree => rfl

/-- Extracting a file gives what the file gives, in every context. -/
theorem yields_extractUnitFile :
    Yields (extractUnitFile w path grammar root).run (unitOf w path grammar root) := by
  unfold extractUnitFile unitOf
  cases hfile : w.store.isFile (w.store.absolute path) with
  | false =>
    simp only [hfile]
    exact fun _ => rfl
  | true =>
    simp only [hfile, Bool.not_true, Bool.false_eq_true, if_false, if_true]
    apply Working.yields_bind (Working.yields_ofExcept _)
    intro g
    apply Yields.inUnit
    have hparsed :=
      yields_ofLogged (parseFile w.store w.parser (w.store.absolute path) (some g.name)).run
    rw [parseFile_value] at hparsed
    apply Working.yields_bind hparsed
    intro parsed
    split
    · exact fun _ => rfl
    · exact fun _ => rfl

theorem yields_extractFile :
    Yields (extractFile w path grammar root).run
      ((unitOf w path grammar root).map ExtractedUnit.result) := by
  apply (yields_extractUnitFile w path grammar root).bind
  cases unitOf w path grammar root with
  | ok unit => exact fun _ => rfl
  | error e =>
    simp only
    split
    · exact fun _ => rfl
    · exact fun _ => rfl

end File

def units (outcomes : List (Except Failure ExtractedUnit)) : List ExtractedUnit :=
  outcomes.filterMap Except.toOption

def failures (outcomes : List (Except Failure ExtractedUnit)) : Nat :=
  outcomes.countP fun outcome => !outcome.isOk

section Counting

variable (unit : ExtractedUnit) (e : Failure) (outcomes : List (Except Failure ExtractedUnit))

@[simp] theorem units_nil : units [] = [] := rfl

@[simp] theorem units_cons_ok : units (.ok unit :: outcomes) = unit :: units outcomes := rfl

@[simp] theorem units_cons_error : units (.error e :: outcomes) = units outcomes := rfl

theorem units_append (first second : List (Except Failure ExtractedUnit)) :
    units (first ++ second) = units first ++ units second := List.filterMap_append

@[simp] theorem failures_nil : failures [] = 0 := rfl

@[simp] theorem failures_cons_ok : failures (.ok unit :: outcomes) = failures outcomes :=
  List.countP_cons_of_neg (by simp [Except.isOk, Except.toBool])

@[simp] theorem failures_cons_error : failures (.error e :: outcomes) = failures outcomes + 1 :=
  List.countP_cons_of_pos (by simp [Except.isOk, Except.toBool])

theorem length_units_add_failures :
    (units outcomes).length + failures outcomes = outcomes.length := by
  induction outcomes with
  | nil => rfl
  | cons outcome outcomes ih =>
    cases outcome with
    | error e =>
      rw [units_cons_error, failures_cons_error, List.length_cons]
      omega
    | ok unit =>
      rw [units_cons_ok, failures_cons_ok, List.length_cons, List.length_cons]
      omega

namespace Stats

def plus (s : Stats) (outcomes : List (Except Failure ExtractedUnit)) : Stats where
  processed := s.processed + (units outcomes).length
  failed := s.failed + failures outcomes
  declarations := s.declarations + ((units outcomes).map fun u => u.result.declarationCount).sum
  declarationErrors :=
    s.declarationErrors + ((units outcomes).map fun u => u.result.errors.length).sum
  parseErrors := s.parseErrors + ((units outcomes).map ExtractedUnit.faults).sum

theorem plus_cons_ok (s : Stats) :
    s.plus (.ok unit :: outcomes) = (s.record unit).plus outcomes := by
  simp [plus, record]
  omega

theorem plus_cons_error (s : Stats) :
    s.plus (.error e :: outcomes) = s.recordFailure.plus outcomes := by
  simp [plus, recordFailure]
  omega

theorem plus_append (s : Stats) (first second : List (Except Failure ExtractedUnit)) :
    s.plus (first ++ second) = (s.plus first).plus second := by
  induction first generalizing s with
  | nil => rfl
  | cons outcome first ih =>
    cases outcome with
    | error e => rw [List.cons_append, plus_cons_error, plus_cons_error, ih]
    | ok unit => rw [List.cons_append, plus_cons_ok, plus_cons_ok, ih]

end Stats

end Counting

section Steps

variable {w : Workspace} {options : BatchOptions} {root file : Path} {files : List Path}
  {stats : Stats} {batch : Batch}

/-- A file that gives a unit is counted, and the batch goes on. -/
theorem yields_runFiles_ok {unit : ExtractedUnit}
    (houtcome : unitOf w file options.grammar (some root) = .ok unit)
    (h : Yields (runFiles w options root files (stats.record unit)) batch) :
    Yields (runFiles w options root (file :: files) stats)
      { batch with units := (unit.result, stats.record unit) :: batch.units } := by
  have hfile := yields_extractUnitFile w file options.grammar (some root)
  rw [houtcome] at hfile
  unfold runFiles
  exact hfile.bind (h.bind (yields_pure _))

/-- A file that fails is counted and passed over, if the batch is to go on. -/
theorem yields_runFiles_error {e : Failure} (hgoOn : options.goOn = true)
    (houtcome : unitOf w file options.grammar (some root) = .error e)
    (h : Yields (runFiles w options root files stats.recordFailure) batch) :
    Yields (runFiles w options root (file :: files) stats) batch := by
  have hfile := yields_extractUnitFile w file options.grammar (some root)
  rw [houtcome] at hfile
  unfold runFiles
  apply hfile.bind
  apply (yields_report _).bind
  simpa only [hgoOn, if_true] using h

/-- Otherwise the batch ends with the failure. -/
theorem yields_runFiles_stop {e : Failure} (hgoOn : options.goOn = false)
    (houtcome : unitOf w file options.grammar (some root) = .error e) (files : List Path)
    (stats : Stats) :
    Yields (runFiles w options root (file :: files) stats)
      ⟨[], stats.recordFailure, some e⟩ := by
  have hfile := yields_extractUnitFile w file options.grammar (some root)
  rw [houtcome] at hfile
  unfold runFiles
  apply hfile.bind
  apply (yields_report _).bind
  simpa only [hgoOn, Bool.false_eq_true, if_false] using yields_pure _

end Steps

/-- A batch that goes on gives the units of all files that do not fail, and counts every file. -/
theorem exists_yields_runFiles (w : Workspace) {options : BatchOptions}
    (hgoOn : options.goOn = true) (root : Path) (files : List Path) (stats : Stats) :
    let outcomes := files.map fun file => unitOf w file options.grammar (some root)
    ∃ batch, Yields (runFiles w options root files stats) batch ∧
      batch.units.map (·.1) = (units outcomes).map ExtractedUnit.result ∧
      batch.stats = stats.plus outcomes ∧ batch.failure = none := by
  induction files generalizing stats with
  | nil => exact ⟨_, yields_pure _, rfl, rfl, rfl⟩
  | cons file files ih =>
    cases houtcome : unitOf w file options.grammar (some root) with
    | ok unit =>
      obtain ⟨batch, hbatch, hunits, hstats, hfailure⟩ := ih (stats.record unit)
      refine ⟨_, yields_runFiles_ok houtcome hbatch, ?_, ?_, hfailure⟩
      · simp [houtcome, hunits]
      · rw [hstats, List.map_cons, houtcome, Stats.plus_cons_ok]
    | error e =>
      obtain ⟨batch, hbatch, hunits, hstats, hfailure⟩ := ih stats.recordFailure
      refine ⟨batch, yields_runFiles_error hgoOn houtcome hbatch, ?_, ?_, hfailure⟩
      · simp [houtcome, hunits]
      · rw [hstats, List.map_cons, houtcome, Stats.plus_cons_error]

/-- A directory is extracted file by file, once its grammar is chosen. -/
theorem yields_runSource_of_directory {w : Workspace} {options : BatchOptions} {source : Path}
    {chosen : Option Grammar} {stats : Stats} {batch : Batch}
    (hfile : w.store.isFile (w.store.absolute source) = false)
    (hdirectory : w.store.isDirectory (w.store.absolute source) = true)
    (hchosen : (chosenGrammar options.grammar).mapM Grammar.named = .ok chosen)
    (h : Yields (runFiles w options
      (((options.root.filter fun root => !root.isEmpty).map w.store.absolute).getD
        (w.store.absolute source))
      (Discovery.sourceFiles w.store (w.store.absolute source) (chosen.map Grammar.extensions)
        options.excluded) stats) batch) :
    Yields (runSource w options source stats) batch := by
  simp only [runSource, hfile, hdirectory, hchosen, if_true, if_false, Bool.false_eq_true]
  apply (yields_ofLogged _).bind
  split
  · exact (yields_report _).bind h
  · exact h

def failure? {α : Type} : Except Failure α → Option Failure
  | .error e => some e
  | .ok _ => none

section Sources

variable (w : Workspace) (excluded : Option (List String)) (spec : SourceSpec)

def outcomesOf : List (Except Failure ExtractedUnit) :=
  (filesIn w excluded spec).map fun file => unitOf w file spec.grammar (some (rootOf w spec))

def unitsOf : List UnitResult :=
  (filesIn w excluded spec).filterMap fun file =>
    ((extractFile w file spec.grammar (some (rootOf w spec))).run {}).value.toOption

def failureOf : Option Failure := failure? (filesOf w excluded spec)

def reportOf : SourceReport where
  path := spec.path
  grammar := spec.grammar
  units := (unitsOf w excluded spec).length
  error := (failureOf w excluded spec).map Failure.message

def optionsOf (goOn : Bool) : BatchOptions := { grammar := spec.grammar, goOn, excluded }

variable {w excluded spec} {goOn : Bool} {stats : Stats}

theorem outcomesOf_of_files {files : List Path} (h : filesOf w excluded spec = .ok files) :
    outcomesOf w excluded spec =
      files.map fun file => unitOf w file spec.grammar (some (rootOf w spec)) := by
  simp [outcomesOf, filesIn, h, Except.toOption]

theorem outcomesOf_of_failure {e : Failure} (h : filesOf w excluded spec = .error e) :
    outcomesOf w excluded spec = [] := by
  simp [outcomesOf, filesIn, h, Except.toOption]

theorem unitsOf_eq (w : Workspace) (excluded : Option (List String)) (spec : SourceSpec) :
    unitsOf w excluded spec = (units (outcomesOf w excluded spec)).map ExtractedUnit.result := by
  have hresult : ∀ file,
      ((extractFile w file spec.grammar (some (rootOf w spec))).run {}).value.toOption =
      (unitOf w file spec.grammar (some (rootOf w spec))).toOption.map ExtractedUnit.result := by
    intro file
    rw [yields_extractFile w file spec.grammar (some (rootOf w spec)) {}]
    cases unitOf w file spec.grammar (some (rootOf w spec)) with
    | error e => rfl
    | ok unit => rfl
  simp only [unitsOf, units, outcomesOf, hresult, List.filterMap_map, List.map_filterMap]
  rfl

/-- A source with files is extracted file by file. -/
theorem yields_runSource_of_files {files : List Path} {batch : Batch}
    (hfiles : filesOf w excluded spec = .ok files)
    (h : Yields (runFiles w (optionsOf excluded spec goOn) (rootOf w spec) files stats) batch) :
    Yields (runSource w (optionsOf excluded spec goOn) (Path.ofString spec.path) stats) batch := by
  rcases filesOf_eq_ok hfiles with ⟨hfile, rfl⟩ | ⟨hfile, hdirectory, g, hgrammar, rfl⟩
  · simp only [rootOf, hfile, if_true] at h
    simp only [placeOf] at hfile h
    simpa [runSource, hfile, optionsOf] using h
  · simp only [rootOf, hfile, Bool.false_eq_true, if_false] at h
    exact yields_runSource_of_directory hfile hdirectory hgrammar h

/-- A source without files fails, and nothing of it is extracted. -/
theorem yields_runSource_of_failure {e : Failure} (hfiles : filesOf w excluded spec = .error e) :
    Yields (runSource w (optionsOf excluded spec goOn) (Path.ofString spec.path) stats)
      ⟨[], stats, some e⟩ := by
  obtain ⟨hfile, hcause⟩ := filesOf_eq_error hfiles
  simp only [placeOf] at hfile hcause
  rcases hcause with ⟨hdirectory, hgrammar⟩ | ⟨hdirectory, rfl⟩
  · simp only [runSource, hfile, hdirectory, optionsOf, hgrammar, if_true, if_false,
      Bool.false_eq_true]
    exact yields_pure _
  · simp only [runSource, hfile, hdirectory, if_false, Bool.false_eq_true]
    exact yields_pure _

/-- A source gives the units of its files, or nothing if it fails. -/
theorem exists_yields_runSource (w : Workspace) (excluded : Option (List String))
    (spec : SourceSpec) (stats : Stats) :
    ∃ batch,
      Yields (runSource w (optionsOf excluded spec true) (Path.ofString spec.path) stats) batch ∧
      batch.units.map (·.1) = unitsOf w excluded spec ∧
      batch.stats = stats.plus (outcomesOf w excluded spec) ∧
      batch.failure = failureOf w excluded spec := by
  rw [unitsOf_eq]
  unfold failureOf
  cases hfiles : filesOf w excluded spec with
  | ok files =>
    have hgoOn : (optionsOf excluded spec true).goOn = true := rfl
    obtain ⟨batch, hbatch, hunits, hstats, hfailure⟩ :=
      exists_yields_runFiles w hgoOn (rootOf w spec) files stats
    rw [outcomesOf_of_files hfiles]
    exact ⟨batch, yields_runSource_of_files hfiles hbatch, hunits, hstats, hfailure⟩
  | error e =>
    rw [outcomesOf_of_failure hfiles]
    exact ⟨_, yields_runSource_of_failure hfiles, rfl, rfl, rfl⟩

theorem isForeseen_of_failureOf {e : Failure} (h : failureOf w excluded spec = some e) :
    e.isForeseen = true := by
  unfold failureOf at h
  cases hfiles : filesOf w excluded spec with
  | ok files =>
    rw [hfiles] at h
    simp [failure?] at h
  | error cause =>
    rw [hfiles] at h
    obtain rfl := Option.some.inj h
    exact isForeseen_of_filesOf hfiles

attribute [local irreducible] runSource in
/-- A run that goes on reports every source, gives the units of all of them and counts all files. -/
theorem yields_runSources (w : Workspace) (excluded : Option (List String))
    (specs : List SourceSpec) (stats : Stats) :
    Yields (runSources w true excluded specs stats)
      ⟨specs.map (reportOf w excluded), specs.flatMap (unitsOf w excluded),
        stats.plus (specs.flatMap (outcomesOf w excluded)), none⟩ := by
  induction specs generalizing stats with
  | nil => exact yields_pure (Harvest.mk [] [] stats none)
  | cons spec specs ih =>
    obtain ⟨batch, hbatch, hunits, hstats, hfailure⟩ :=
      exists_yields_runSource w excluded spec stats
    refine Yields.bind hbatch ?_
    rw [List.map_cons, List.flatMap_cons, List.flatMap_cons, Stats.plus_append, ← hstats, hunits,
      hfailure]
    have hlater := ih batch.stats
    unfold reportOf
    cases hsource : failureOf w excluded spec with
    | none => exact hlater.bind (yields_pure _)
    | some e =>
      simp only [isForeseen_of_failureOf hsource, if_true, Bool.and_true]
      exact (yields_report _).bind (hlater.bind (yields_pure _))

end Sources

section Agreeing

variable {w : Workspace} {t : Store} {off : List Path} (hproper : w.store.IsProper)
  (hagrees : w.store.AgreesOff off t) (ht : t.root.isDirectory = true)

include hproper hagrees ht

theorem parsedBy_withStore {path : Path} {g : Grammar} (h : ¬ w.store.names path <+: off)
    (hfile : w.store.isFile (w.store.absolute path) = true) :
    parsedBy (w.withStore t) (w.store.absolute path) g =
      parsedBy w (w.store.absolute path) g := by
  obtain ⟨octets, hlookup⟩ := Store.isFile_eq_true_iff.mp hfile
  have hbefore := Store.read_eq_ok_iff.mpr hlookup
  have hafter := Store.read_eq_ok_iff.mpr
    ((lookup?_withStore hproper hagrees ht h).trans hlookup)
  rw [parsedBy, parsedBy, hbefore, hafter]
  rfl

/-- Where two stores agree on a file, it gives the same in both. -/
theorem unitOf_withStore {path root : Path} {grammar : Option String}
    (h : ¬ w.store.names path <+: off) :
    unitOf (w.withStore t) path grammar (some root) = unitOf w path grammar (some root) := by
  have hisFile := isFile_withStore hproper hagrees ht h
  by_cases hfile : w.store.isFile (w.store.absolute path) = true
  · simp only [unitOf, rootFor, absolute_withStore hagrees, hisFile,
      parsedBy_withStore hproper hagrees ht h hfile]
  · simp only [unitOf, absolute_withStore hagrees, hisFile, hfile]
    rfl

variable {excluded : Option (List String)} {spec : SourceSpec}
  (h : ¬ w.store.names (Path.ofString spec.path) <+: off)

include h

/-- Where only what lies off a source differs, the source gives the same. -/
theorem outcomesOf_withStore :
    outcomesOf (w.withStore t) excluded spec = outcomesOf w excluded spec := by
  rw [outcomesOf, outcomesOf, filesIn, filesOf_withStore hproper hagrees ht h,
    rootOf_withStore hproper hagrees ht h, ← filesIn]
  apply List.map_congr_left
  intro file hfile
  apply unitOf_withStore hproper hagrees ht
  exact fun hway => h ((names_of_mem_filesIn hproper hfile).trans hway)

theorem unitsOf_withStore : unitsOf (w.withStore t) excluded spec = unitsOf w excluded spec := by
  rw [unitsOf_eq, unitsOf_eq, outcomesOf_withStore hproper hagrees ht h]

theorem reportOf_withStore : reportOf (w.withStore t) excluded spec = reportOf w excluded spec := by
  rw [reportOf, reportOf, unitsOf_withStore hproper hagrees ht h, failureOf, failureOf,
    filesOf_withStore hproper hagrees ht h]

end Agreeing

end DeclDocs
