import DeclDocs.Command.Run
import DeclDocs.Proofs.FirstFailure
import DeclDocs.Proofs.FollowedRuns

/-!
Runs that end at their first failure, as a whole. If nothing fails, such a run is the run that goes
on, in everything. Otherwise its file holds the lines that the other one writes before the failure,
and the command ends with exit code 1 and a report that holds the reason.
-/
namespace DeclDocs

open Log Text Journal

section Executing

variable {w : Workspace} {plan : Plan} {started : Store}

def octetsOf (units : List UnitResult) : List UInt8 :=
  Utf8.encode (Output.lines (units.map UnitResult.toJson))

theorem exists_fillOutput
    (hstart : Output.start w.store (Path.ofString plan.outputFile) = .ok started) (h : Harvest) :
    ∃ written, fillOutput started (Path.ofString plan.outputFile) h = .ok written ∧
      Output.writeLines w.store (Path.ofString plan.outputFile)
        (h.units.map UnitResult.toJson) = .ok written ∧
      written.read (Path.ofString plan.outputFile) = .ok (octetsOf h.units) := by
  obtain ⟨written, hfill, hread⟩ := Output.exists_fill hstart (h.units.map UnitResult.toJson)
  refine ⟨written, ?_, (Output.writeLines_of_start hstart _).trans hfill, hread⟩
  simp only [fillOutput, hfill]

def Harvest.ending (h : Harvest) : Except Failure Harvest :=
  match h.failure with
  | none => .ok h
  | some e => .error e

/-- What was harvested is written whether or not a failure ended the run. -/
theorem exists_yields_execute (plan : Plan) {h : Harvest}
    (hstart : Output.start w.store (Path.ofString plan.outputFile) = .ok started)
    (hrun : Yields (runSources (w.withStore started) plan.goOn plan.excluded plan.sources {}) h) :
    ∃ written, Output.writeLines w.store (Path.ofString plan.outputFile)
        (h.units.map UnitResult.toJson) = .ok written ∧
      written.read (Path.ofString plan.outputFile) = .ok (octetsOf h.units) ∧
      Yields (execute w plan) (written, h.ending.map (Summary.ofHarvest plan.outputFile)) := by
  obtain ⟨written, hfilled, hwrite, hread⟩ := exists_fillOutput hstart h
  have hinto : Yields (harvestInto w plan (Path.ofString plan.outputFile) started)
      (written, h.ending) := by
    apply hrun.bind
    rw [hfilled, Harvest.ending]
    cases h.failure with
    | none => exact yields_pure _
    | some e => exact yields_pure _
  refine ⟨written, hwrite, hread, ?_⟩
  unfold execute
  apply (yields_report _).bind
  rw [hstart]
  apply (hinto.inPhase "extract").bind
  cases h.ending with
  | error e => exact yields_pure _
  | ok harvested => exact (yields_report _).bind ((yields_report _).bind (yields_pure _))

/-- A run that does not go on follows the one that does. -/
theorem follows_execute
    (hstart : Output.start w.store (Path.ofString plan.outputFile) = .ok started) :
    Follows (fun ended : Store × Except Failure Summary => failure? ended.2) TellsSource
      (execute w { plan with goOn := false }) (execute w { plan with goOn := true }) := by
  have hinto : Follows (fun ended : Store × Except Failure Harvest => failure? ended.2) TellsSource
      (harvestInto w { plan with goOn := false } (Path.ofString plan.outputFile) started)
      (harvestInto w { plan with goOn := true } (Path.ofString plan.outputFile) started) := by
    apply (follows_runSources (w.withStore started) {} plan.excluded plan.sources).finish
    intro h e context hfailure
    obtain ⟨written, hfilled, -⟩ := exists_fillOutput hstart h
    rw [hfilled, hfailure]
    exact ⟨rfl, rfl⟩
  unfold execute
  apply Follows.after
  intro _
  simp only [hstart]
  apply (hinto.inPhase "extract").finish
  rintro ⟨store, ended⟩ e context hfailure
  cases ended with
  | ok h => cases hfailure
  | error cause =>
    obtain rfl := Option.some.inj hfailure
    exact ⟨rfl, rfl⟩

end Executing

namespace Output

def CanReport (store : Store) (directory : Path) (run : String) : Prop :=
  ∃ around reported, store.makeDirectories directory = .ok around ∧
    around.write (reportPath directory run) [] = .ok reported

theorem exists_writeReport {store : Store} {directory : Path} {run : String}
    (h : CanReport store directory run) (time : String) (fields : List (String × Json)) :
    ∃ written, writeReport store directory run time fields =
        .ok (reportPath directory run, written) ∧
      written.read (reportPath directory run) =
        .ok (Utf8.encode (Json.indented (.obj (stamped run time fields)))) := by
  obtain ⟨around, reported, haround, hwrite⟩ := h
  obtain ⟨names, name, hplace, hfree, -⟩ := Store.write_eq_ok hwrite
  have hreport : around.write (reportPath directory run)
      (Utf8.encode (Json.indented (.obj (stamped run time fields)))) = .ok _ :=
    Store.write_of_place hplace hfree
  refine ⟨_, ?_, Store.read_of_write hreport⟩
  simp only [writeReport, haround, bind, Except.bind, hreport]
  rfl

end Output

namespace Command

def failureReport (s : Surroundings) (e : Failure) : Json :=
  .obj [("run_id", .str s.run), ("pipeline", .str "docextract"), ("status", .str "failed"),
    ("error", .str e.message), ("timestamp_utc", .str s.time)]

theorem stamped_failure (s : Surroundings) (e : Failure) :
    .obj (Output.stamped s.run s.time (update (reportStart s.run) [("error", .str e.message)])) =
      failureReport s e := by
  simp [Output.stamped, Output.addMissing, update, reportStart, Json.putField, failureReport,
    pipeline, Status.word]

def Reports (s : Surroundings) (words : List String) (directory : Path) (e : Failure) : Prop :=
  ∃ outcome, run s words = .ok outcome ∧ outcome.exit = .ok 1 ∧
    outcome.store.read (Output.reportPath directory s.run) =
      .ok (Utf8.encode (Json.indented (failureReport s e)))

variable {s : Surroundings} {words : List String} {options : Options} {settings : Settings}

theorem reports_of_failure {e : Failure} {left : Store}
    (hoptions : Options.parse (Settings.switch false s.strictSwitch) words = .ok options)
    (hsettings : (loadSettings s options).value = .ok settings)
    (hsources : (planOf options settings).sources ≠ [])
    (hexecute : Yields (execute s.workspace (planOf options settings)) (left, .error e))
    (hreport : Output.CanReport left (reportDirectoryOf options settings) s.run) :
    Reports s words (reportDirectoryOf options settings) e := by
  obtain ⟨written, hwrite, hread⟩ := Output.exists_writeReport hreport s.time
    (update (reportStart s.run) [("error", .str e.message)])
  have hleave : Yields (leaveReport s left (reportDirectoryOf options settings)
      (update (reportStart s.run) [("error", .str e.message)])) (.ok written) := by
    unfold leaveReport
    rw [hwrite]
    exact (yields_report _).bind (yields_pure _)
  have hplan : Yields (runPlan s (planOf options settings) (reportDirectoryOf options settings))
      (written, .ok 1) := by
    apply hexecute.bind
    apply hleave.bind
    exact (yields_report _).bind (yields_pure _)
  have hrun : Yields (runWith s options settings) (written, .ok 1) := by
    have hset : Yields (Journal.setRun s.run) () := fun _ => rfl
    apply hset.bind
    simpa [hsources] using hplan
  rw [stamped_failure] at hread
  have houtcome : ∃ lines, run s words = .ok ⟨(runWith s options settings {}).value.2,
      (runWith s options settings {}).value.1, lines⟩ := by
    simp only [run, hoptions, hsettings, Except.mapError, bind, Except.bind]
    exact ⟨_, rfl⟩
  rw [hrun {}] at houtcome
  obtain ⟨lines, houtcome⟩ := houtcome
  exact ⟨_, houtcome, rfl, hread⟩

end Command

section FirstFailure

variable (w : Workspace) (plan : Plan) (context : Context)

def runToFailure : Page (Store × Except Failure Summary) :=
  execute w { plan with goOn := false } context

def runThrough : Page (Store × Except Failure Summary) :=
  execute w { plan with goOn := true } context

/-- How a run ends at its first failure: the units before it are written, the file of the run that
goes on begins with their lines, and behind the record of the failure nothing is logged but that the
source failed. -/
structure EndsAtFailure (done : List UnitResult) (e : Failure) (later : List UnitResult)
    (left full : Store) : Prop where
  ends : (runToFailure w plan context).value = (left, .error e)
  written : left.read (Path.ofString plan.outputFile) = .ok (octetsOf done)
  goesOn : full.read (Path.ofString plan.outputFile) = .ok (octetsOf done ++ octetsOf later)
  log : ∃ told, TellsSource e told ∧
    BreaksOff e told (runToFailure w plan context).records (runThrough w plan context).records

/-- Whether the report of a run can be written once its output is, whatever the output holds. -/
def ReportWritable (directory : Path) (run : String) : Prop :=
  ∀ records written,
    Output.writeLines w.store (Path.ofString plan.outputFile) records = .ok written →
      Output.CanReport written directory run

theorem octetsOf_append (first second : List UnitResult) :
    octetsOf (first ++ second) = octetsOf first ++ octetsOf second := by
  simp only [octetsOf, Output.lines, List.map_append, List.flatMap_append, Output.encode_append]

theorem filterMap_ok (done : List UnitResult) :
    (done.map (Except.ok : UnitResult → Except Failure UnitResult)).filterMap Except.toOption =
      done := by
  rw [List.filterMap_map]
  exact List.filterMap_some

variable {w plan} {started : Store} (hproper : w.store.IsProper)
  (hstart : Output.start w.store (Path.ofString plan.outputFile) = .ok started)
  (houtside : ∀ spec ∈ plan.sources, IsOutside w plan spec)

section Runs

include hproper hstart houtside

/-- The run that goes on ends with a summary and writes the units of all attempts. -/
theorem exists_runThrough (context : Context) :
    ∃ full, (runThrough w plan context).value =
        (full, .ok (Summary.ofHarvest plan.outputFile (harvestOf w plan))) ∧
      full.read (Path.ofString plan.outputFile) =
        .ok (octetsOf ((attempts w plan).filterMap Except.toOption)) := by
  have hrun : Yields (runSources (w.withStore started) true plan.excluded plan.sources {})
      (harvestOf w plan) := by
    rw [← harvestOf_of_start hproper hstart houtside]
    exact yields_runSources (w.withStore started) plan.excluded plan.sources {}
  obtain ⟨full, -, hread, hends⟩ := exists_yields_execute { plan with goOn := true } hstart hrun
  rw [filterMap_attempts]
  exact ⟨full, hends context, hread⟩

/-- The run that does not go on writes the units before the first failure. -/
theorem exists_runToFailure :
    ∃ done failure left, EndsAt (attempts w plan) done failure ∧
      Output.writeLines w.store (Path.ofString plan.outputFile) (done.map UnitResult.toJson) =
        .ok left ∧
      left.read (Path.ofString plan.outputFile) = .ok (octetsOf done) ∧
      (failure = none →
        ∃ summary, Yields (execute w { plan with goOn := false }) (left, .ok summary)) ∧
      ∀ e, failure = some e → Yields (execute w { plan with goOn := false }) (left, .error e) := by
  obtain ⟨h, hrun, hends⟩ :=
    exists_yields_runSources_endsAt (w.withStore started) plan.excluded {} plan.sources
  obtain ⟨left, hwrite, hread, hyields⟩ :=
    exists_yields_execute { plan with goOn := false } hstart hrun
  rw [← attempts, attempts_of_start hproper hstart houtside] at hends
  refine ⟨h.units, h.failure, left, hends, hwrite, hread, ?_, ?_⟩
  · intro hnone
    rw [Harvest.ending, hnone] at hyields
    exact ⟨_, hyields⟩
  · intro e hfailure
    rw [Harvest.ending, hfailure] at hyields
    exact hyields

end Runs

include hstart

/-- A run that does not go on and does not fail is the run that goes on. -/
theorem runToFailure_of_ok {context : Context} {store : Store} {summary : Summary}
    (h : (runToFailure w plan context).value = (store, .ok summary)) :
    runToFailure w plan context = runThrough w plan context := by
  rcases follows_execute hstart context with hsame | ⟨e, told, hfailure, -⟩
  · exact hsame
  · rw [← runToFailure, h] at hfailure
    cases hfailure

/-- A run that does not go on and fails breaks off there. -/
theorem endsAtFailure_of_error {context : Context} {done : List UnitResult} {e : Failure}
    {rest : List (Except Failure UnitResult)} {left full : Store} {summary : Summary}
    (hattempts : attempts w plan = done.map .ok ++ .error e :: rest)
    (hends : (runToFailure w plan context).value = (left, .error e))
    (hread : left.read (Path.ofString plan.outputFile) = .ok (octetsOf done))
    (hthrough : (runThrough w plan context).value = (full, .ok summary))
    (hfull : full.read (Path.ofString plan.outputFile) =
      .ok (octetsOf ((attempts w plan).filterMap Except.toOption))) :
    EndsAtFailure w plan context done e (rest.filterMap Except.toOption) left full where
  ends := hends
  written := hread
  goesOn := by
    rw [hfull, hattempts, List.filterMap_append, filterMap_ok, octetsOf_append]
    rfl
  log := by
    rcases follows_execute hstart context with hsame | ⟨cause, told, hfailure, htold, hbreaks⟩
    · rw [← runToFailure, ← runThrough] at hsame
      rw [hsame, hthrough] at hends
      cases hends
    · rw [← runToFailure, hends] at hfailure
      obtain rfl := Option.some.inj hfailure
      exact ⟨told, htold, hbreaks⟩

end FirstFailure

/-- A run that ends at its first failure agrees with the run that goes on, up to that failure. If
nothing fails, the two runs are the same in everything. Otherwise the first failing attempt ends it:
the units before it are written, nothing behind it is extracted, and the command reports it. -/
theorem failFast_agrees (s : Command.Surroundings) (plan : Plan) (context : Context)
    (hproper : s.workspace.store.IsProper)
    (hwritable : ∃ started,
      Output.start s.workspace.store (Path.ofString plan.outputFile) = .ok started)
    (houtside : ∀ spec ∈ plan.sources, IsOutside s.workspace plan spec) :
    ∃ full summary, (runThrough s.workspace plan context).value = (full, .ok summary) ∧
      (∀ spec ∈ plan.sources,
        (filesIn s.workspace plan.excluded spec).Pairwise fun a b => Path.le a b = true) ∧
      ((summary.status = .success ∧
          ∃ units, attempts s.workspace plan = units.map .ok ∧
            full.read (Path.ofString plan.outputFile) = .ok (octetsOf units) ∧
            runToFailure s.workspace plan context = runThrough s.workspace plan context) ∨
        (summary.status ≠ .success ∧
          ∃ done e rest left, attempts s.workspace plan = done.map .ok ++ .error e :: rest ∧
            EndsAtFailure s.workspace plan context done e (rest.filterMap Except.toOption) left
              full ∧
            ∀ words options settings,
              Command.Options.parse (Settings.switch false s.strictSwitch) words = .ok options →
              (Command.loadSettings s options).value = .ok settings →
              Command.planOf options settings = { plan with goOn := false } →
              ReportWritable s.workspace plan (Command.reportDirectoryOf options settings) s.run →
              Command.Reports s words (Command.reportDirectoryOf options settings) e)) := by
  obtain ⟨started, hstart⟩ := hwritable
  obtain ⟨full, hthrough, hfull⟩ := exists_runThrough hproper hstart houtside context
  obtain ⟨done, failure, left, hends, hwrite, hread, hok, hfailed⟩ :=
    exists_runToFailure hproper hstart houtside
  refine ⟨full, _, hthrough, fun spec _ => sorted_filesIn _ _ spec, ?_⟩
  have hstatus := status_eq_success_iff s.workspace plan
  cases failure with
  | none =>
    obtain ⟨summary, hsummary⟩ := hok rfl
    have hattempts := hends.eq_map
    rw [hattempts, filterMap_ok] at hfull
    refine .inl ⟨?_, done, hattempts, hfull, runToFailure_of_ok hstart (hsummary context)⟩
    rw [hstatus, hattempts, failedAttempts_ok]
  | some e =>
    have hyields := hfailed e rfl
    obtain ⟨rest, hattempts⟩ := hends.exists_rest
    refine .inr ⟨?_, done, e, rest, left, hattempts,
      endsAtFailure_of_error hstart hattempts (hyields context) hread hthrough hfull, ?_⟩
    · rw [Ne, hstatus, hattempts]
      exact failedAttempts_error done e rest
    · intro words options settings hoptions hsettings hplan hreport
      have hsources : plan.sources ≠ [] := by
        intro hnone
        simp [attempts, hnone] at hattempts
      apply Command.reports_of_failure hoptions hsettings
      · rw [hplan]
        exact hsources
      · rw [hplan]
        exact hyields
      · exact hreport _ left hwrite

section Mixed

def mixedWords : List String :=
  ["--source", "src", "--source=gone", "--fail", "--output-file", "out/units.jsonl",
    "--report-dir", "out/reports"]

def mixedOptions : Command.Options where
  sources := ["src", "gone"]
  outputFile := some "out/units.jsonl"
  reportDirectory := some "out/reports"
  failFast := true

def mixedSurroundings : Command.Surroundings where
  workspace := mixedWorkspace
  run := "first"
  time := "noon"

theorem parse_mixedWords : Command.Options.parse false mixedWords = .ok mixedOptions := by
  have hparsed : (Command.Options.parse false mixedWords).toOption = some mixedOptions := by
    decide +kernel
  cases hwords : Command.Options.parse false mixedWords with
  | error e => simp [hwords, Except.toOption] at hparsed
  | ok options =>
    rw [hwords] at hparsed
    rw [Option.some.inj hparsed]

/-- The second file of the first source is refused, and the second source fails. -/
theorem isOk_mixedAttempts :
    (attempts mixedWorkspace mixedPlan).map Except.isOk = [true, false, false] := by
  have hfiles : filesOf mixedWorkspace none { path := "src" } =
      .ok ["/src/A.cs".toList, "/src/B.cs".toList] := by
    have hfiles := filesIn_mixedWorkspace
    unfold filesIn at hfiles
    cases hsource : filesOf mixedWorkspace none { path := "src" } with
    | error e => simp [hsource, Except.toOption] at hfiles
    | ok files =>
      rw [hsource] at hfiles
      rw [← hfiles]
      rfl
  have hsrc : (attemptsOf mixedWorkspace none { path := "src" }).map Except.isOk =
      [true, false] := by
    unfold attemptsOf
    rw [hfiles]
    decide +kernel
  have hgone : (attemptsOf mixedWorkspace none { path := "gone" }).map Except.isOk = [false] := by
    decide +kernel
  change (attemptsOf mixedWorkspace none { path := "src" } ++
    (attemptsOf mixedWorkspace none { path := "gone" } ++ [])).map Except.isOk = _
  rw [List.append_nil, List.map_append, hsrc, hgone]
  rfl

theorem reportWritable_mixed :
    ReportWritable mixedWorkspace mixedPlan (Path.ofString "out/reports") "first" := by
  intro records written hwritten
  have hfilled : ∃ octets, Store.write
      { root := .directory [("src".toList, .directory [("B.cs".toList, .file []),
            ("A.cs".toList, .file [1]), ("bin".toList, .directory [("C.cs".toList, .file [1])])]),
          ("out".toList, .directory [("units.jsonl".toList, .file [])])]
        workingDirectory := ['/'] } "out/units.jsonl".toList octets = .ok written :=
    ⟨_, hwritten⟩
  obtain ⟨octets, hfilled⟩ := hfilled
  obtain rfl := Except.ok.inj hfilled
  exact ⟨_, _, rfl, rfl⟩

theorem mixedPlan_failFast :
    ∃ done e left, (runToFailure mixedWorkspace mixedPlan {}).value = (left, .error e) ∧
      left.read "out/units.jsonl".toList = .ok (octetsOf done) ∧ done.length = 1 ∧
      Command.Reports mixedSurroundings mixedWords "out/reports".toList e := by
  have hproper : mixedWorkspace.store.IsProper := ⟨by decide, by decide, by decide +kernel⟩
  have houtside : ∀ spec ∈ mixedPlan.sources, IsOutside mixedWorkspace mixedPlan spec := by
    unfold IsOutside
    decide +kernel
  have hkinds := isOk_mixedAttempts
  obtain ⟨full, summary, -, -, hsame | hfailed⟩ :=
    failFast_agrees mixedSurroundings mixedPlan {} hproper ⟨_, rfl⟩ houtside
  · obtain ⟨-, units, hattempts, -⟩ := hsame
    rw [show attempts mixedWorkspace mixedPlan = _ from hattempts, List.map_map] at hkinds
    have hfalse : false ∈ units.map (Except.isOk ∘ (Except.ok : _ → Except Failure _)) := by
      simp [hkinds]
    obtain ⟨unit, -, hunit⟩ := List.mem_map.mp hfalse
    cases hunit
  · obtain ⟨-, done, e, rest, left, hattempts, hends, hreports⟩ := hfailed
    refine ⟨done, e, left, hends.ends, hends.written, ?_, ?_⟩
    · rw [show attempts mixedWorkspace mixedPlan = _ from hattempts] at hkinds
      rcases done with - | ⟨first, - | ⟨second, done⟩⟩
      · cases hkinds
      · rfl
      · cases hkinds
    · exact hreports mixedWords mixedOptions {} parse_mixedWords rfl rfl reportWritable_mixed

end Mixed

end DeclDocs
