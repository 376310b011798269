import DeclDocs.Proofs.RunAccounting

/-!
Where a run that does not go on after failures ends. Its files are attempted in the order of the
sources, and within a source in the order of their paths. The first attempt that fails ends the run;
what was extracted by the attempts before it is all that the run gives.
-/
namespace DeclDocs

open Log Journal

section Ending

variable {α : Type}

/-- Where a list of attempts ends: what succeeds before the first failure, and that failure. -/
inductive EndsAt : List (Except Failure α) → List α → Option Failure → Prop where
  | nil : EndsAt [] [] none
  | failed (e : Failure) (rest : List (Except Failure α)) : EndsAt (.error e :: rest) [] (some e)
  | cons (a : α) {attempts : List (Except Failure α)} {done : List α} {failure : Option Failure} :
      EndsAt attempts done failure → EndsAt (.ok a :: attempts) (a :: done) failure

variable {second : List (Except Failure α)} {later : List α} {failure : Option Failure}

theorem EndsAt.append : {first : List (Except Failure α)} → {done : List α} →
    EndsAt first done none → EndsAt second later failure →
    EndsAt (first ++ second) (done ++ later) failure
  | _, _, .nil, h' => h'
  | _, _, .cons a h, h' => .cons a (h.append h')

theorem EndsAt.append_failed {e : Failure} (second : List (Except Failure α)) :
    {first : List (Except Failure α)} → {done : List α} →
    EndsAt first done (some e) → EndsAt (first ++ second) done (some e)
  | _, _, .failed e rest => .failed e (rest ++ second)
  | _, _, .cons a h => .cons a (h.append_failed second)

theorem EndsAt.eq_map : {first : List (Except Failure α)} → {done : List α} →
    EndsAt first done none → first = done.map .ok
  | _, _, .nil => rfl
  | _, _, .cons a h => by rw [List.map_cons, ← h.eq_map]

theorem EndsAt.exists_rest {e : Failure} : {first : List (Except Failure α)} → {done : List α} →
    EndsAt first done (some e) → ∃ rest, first = done.map .ok ++ .error e :: rest
  | _, _, .failed _ rest => ⟨rest, rfl⟩
  | _, _, .cons a h => by
      obtain ⟨rest, hrest⟩ := h.exists_rest
      exact ⟨rest, by rw [hrest, List.map_cons, List.cons_append]⟩

end Ending

section Attempts

variable (w : Workspace) (excluded : Option (List String)) (spec : SourceSpec)

def attemptsOf : List (Except Failure UnitResult) :=
  match filesOf w excluded spec with
  | .error e => [.error e]
  | .ok files => files.map fun file =>
      ((extractFile w file spec.grammar (some (rootOf w spec))).run {}).value

def attempts (plan : Plan) : List (Except Failure UnitResult) :=
  plan.sources.flatMap (attemptsOf w plan.excluded)

theorem attemptsOf_eq : attemptsOf w excluded spec =
    (failureOf w excluded spec).toList.map .error ++
      (outcomesOf w excluded spec).map (Except.map ExtractedUnit.result) := by
  have hfile (file : Path) := yields_extractFile w file spec.grammar (some (rootOf w spec)) {}
  unfold attemptsOf failureOf
  cases hfiles : filesOf w excluded spec with
  | error e =>
    rw [outcomesOf_of_failure hfiles]
    rfl
  | ok files =>
    rw [outcomesOf_of_files hfiles]
    simp only [hfile, failure?, Option.toList_none, List.map_nil, List.nil_append, List.map_map,
      Function.comp_def]

theorem filterMap_attemptsOf :
    (attemptsOf w excluded spec).filterMap Except.toOption = unitsOf w excluded spec := by
  unfold attemptsOf unitsOf filesIn
  cases filesOf w excluded spec with
  | error e => rfl
  | ok files =>
    rw [List.filterMap_map]
    rfl

theorem filterMap_attempts (plan : Plan) :
    (attempts w plan).filterMap Except.toOption =
      plan.sources.flatMap (unitsOf w plan.excluded) := by
  simp only [attempts, List.filterMap_flatMap, filterMap_attemptsOf]

variable {w} {t : Store} {off : List Path} {excluded spec}

theorem attemptsOf_withStore (hproper : w.store.IsProper) (hagrees : w.store.AgreesOff off t)
    (ht : t.root.isDirectory = true) (h : ¬ w.store.names (Path.ofString spec.path) <+: off) :
    attemptsOf (w.withStore t) excluded spec = attemptsOf w excluded spec := by
  rw [attemptsOf_eq, attemptsOf_eq, outcomesOf_withStore hproper hagrees ht h, failureOf,
    failureOf, filesOf_withStore hproper hagrees ht h]

theorem attempts_of_start {plan : Plan} {started : Store} (hproper : w.store.IsProper)
    (hstart : Output.start w.store (Path.ofString plan.outputFile) = .ok started)
    (houtside : ∀ spec ∈ plan.sources, IsOutside w plan spec) :
    attempts (w.withStore started) plan = attempts w plan := by
  have hagrees := Output.agreesOff_start hproper.rooted hstart
  have ht := Output.isDirectory_of_start hstart
  apply List.flatMap_congr
  exact fun spec hspec => attemptsOf_withStore hproper hagrees ht (houtside spec hspec)

end Attempts

section Stopping

variable (w : Workspace) (excluded : Option (List String)) (spec : SourceSpec) (stats : Stats)

/-- A batch that does not go on has the units of the files before the first failure. -/
theorem exists_yields_runFiles_endsAt {options : BatchOptions} (hgoOn : options.goOn = false)
    (root : Path) (files : List Path) :
    ∃ batch, Yields (runFiles w options root files stats) batch ∧
      EndsAt (files.map fun file =>
        (unitOf w file options.grammar (some root)).map ExtractedUnit.result)
        (batch.units.map (·.1)) batch.failure := by
  induction files generalizing stats with
  | nil => exact ⟨_, yields_pure _, .nil⟩
  | cons file files ih =>
    cases houtcome : unitOf w file options.grammar (some root) with
    | ok unit =>
      obtain ⟨batch, hbatch, hends⟩ := ih (stats.record unit)
      refine ⟨_, yields_runFiles_ok houtcome hbatch, ?_⟩
      rw [List.map_cons, houtcome]
      exact hends.cons unit.result
    | error e =>
      refine ⟨_, yields_runFiles_stop hgoOn houtcome files stats, ?_⟩
      rw [List.map_cons, houtcome]
      exact .failed e _

theorem exists_yields_runSource_endsAt :
    ∃ batch,
      Yields (runSource w (optionsOf excluded spec false) (Path.ofString spec.path) stats) batch ∧
      EndsAt (attemptsOf w excluded spec) (batch.units.map (·.1)) batch.failure := by
  rw [attemptsOf_eq]
  unfold failureOf
  cases hfiles : filesOf w excluded spec with
  | ok files =>
    have hgoOn : (optionsOf excluded spec false).goOn = false := rfl
    obtain ⟨batch, hbatch, hends⟩ :=
      exists_yields_runFiles_endsAt w stats hgoOn (rootOf w spec) files
    rw [outcomesOf_of_files hfiles, List.map_map]
    exact ⟨batch, yields_runSource_of_files hfiles hbatch, hends⟩
  | error e => exact ⟨_, yields_runSource_of_failure hfiles, .failed e _⟩

attribute [local irreducible] runSource in
/-- A run that does not go on has the units before the first failure, and ends with it. -/
theorem exists_yields_runSources_endsAt (specs : List SourceSpec) :
    ∃ h, Yields (runSources w false excluded specs stats) h ∧
      EndsAt (specs.flatMap (attemptsOf w excluded)) h.units h.failure := by
  induction specs generalizing stats with
  | nil => exact ⟨_, yields_pure (Harvest.mk [] [] stats none), .nil⟩
  | cons spec specs ih =>
    obtain ⟨batch, hbatch, hends⟩ := exists_yields_runSource_endsAt w excluded spec stats
    let report : SourceReport :=
      { path := spec.path, grammar := spec.grammar, units := (batch.units.map (·.1)).length }
    rw [List.flatMap_cons]
    cases hfailure : batch.failure with
    | none =>
      obtain ⟨later, hlater, hlaterEnds⟩ := ih batch.stats
      rw [hfailure] at hends
      refine ⟨⟨report :: later.reports, batch.units.map (·.1) ++ later.units, later.stats,
        later.failure⟩, Yields.bind hbatch ?_, hends.append hlaterEnds⟩
      simp only [hfailure]
      exact hlater.bind (yields_pure _)
    | some e =>
      rw [hfailure] at hends
      refine ⟨⟨[{ report with error := some e.message }], batch.units.map (·.1), batch.stats,
        some e⟩, Yields.bind hbatch ?_, hends.append_failed _⟩
      simp only [hfailure, Bool.and_false, Bool.false_eq_true, if_false]
      split
      · exact (yields_report _).bind (yields_pure _)
      · exact yields_pure _

end Stopping

section Status

variable (w : Workspace) (plan : Plan)

def failedAttempts (attempts : List (Except Failure UnitResult)) : Nat :=
  attempts.countP fun attempt => !attempt.isOk

theorem failedAttempts_ok (done : List UnitResult) : failedAttempts (done.map .ok) = 0 := by
  rw [failedAttempts, List.countP_map]
  exact List.countP_eq_zero.mpr fun _ _ hfailed => Bool.noConfusion hfailed

theorem failedAttempts_error (done : List UnitResult) (e : Failure)
    (rest : List (Except Failure UnitResult)) :
    failedAttempts (done.map .ok ++ .error e :: rest) ≠ 0 := by
  have hpos : 0 < failedAttempts (done.map .ok ++ .error e :: rest) :=
    List.countP_pos_iff.mpr ⟨.error e, by simp, rfl⟩
  omega

theorem failedAttempts_attemptsOf (excluded : Option (List String)) (spec : SourceSpec) :
    failedAttempts (attemptsOf w excluded spec) =
      failures (outcomesOf w excluded spec) +
        [reportOf w excluded spec].countP SourceReport.hasFailed := by
  have hresults : failedAttempts
      ((outcomesOf w excluded spec).map (Except.map ExtractedUnit.result)) =
      failures (outcomesOf w excluded spec) := by
    rw [failedAttempts, failures, List.countP_map]
    apply List.countP_congr
    intro outcome _
    cases outcome with
    | error e => exact Iff.rfl
    | ok unit => exact Iff.rfl
  rw [attemptsOf_eq, failedAttempts, List.countP_append, ← failedAttempts, ← failedAttempts,
    hresults, Nat.add_comm]
  congr 1
  unfold reportOf
  cases failureOf w excluded spec with
  | none => rfl
  | some e => rfl

theorem failedAttempts_attempts :
    failedAttempts (attempts w plan) =
      (harvestOf w plan).stats.failed +
        (harvestOf w plan).reports.countP SourceReport.hasFailed := by
  have hsources : ∀ specs : List SourceSpec,
      failedAttempts (specs.flatMap (attemptsOf w plan.excluded)) =
        failures (specs.flatMap (outcomesOf w plan.excluded)) +
          (specs.map (reportOf w plan.excluded)).countP SourceReport.hasFailed := by
    intro specs
    induction specs with
    | nil => rfl
    | cons spec specs ih =>
      have hspec := failedAttempts_attemptsOf w plan.excluded spec
      simp only [failedAttempts, failures] at ih hspec ⊢
      rw [List.flatMap_cons, List.flatMap_cons, List.map_cons, List.countP_append,
        List.countP_append, ← List.singleton_append, List.countP_append, ih, hspec]
      omega
  rw [attempts, hsources, harvestOf, Stats.plus, planOutcomes]
  simp only [Nat.zero_add]

/-- A run that goes on is a success exactly if no attempt fails. -/
theorem status_eq_success_iff :
    (Summary.ofHarvest plan.outputFile (harvestOf w plan)).status = .success ↔
      failedAttempts (attempts w plan) = 0 := by
  have hfailed : failedAttempts (attempts w plan) =
      (Summary.ofHarvest plan.outputFile (harvestOf w plan)).stats.failed +
        (Summary.ofHarvest plan.outputFile (harvestOf w plan)).sources.countP
          SourceReport.hasFailed := failedAttempts_attempts w plan
  rw [(accounted_harvestOf w plan).status, ← hfailed]
  by_cases hnone : failedAttempts (attempts w plan) = 0
  · rw [if_pos hnone]
    exact iff_of_true rfl hnone
  · rw [if_neg hnone]
    refine iff_of_false ?_ hnone
    split
    · decide
    · decide

end Status

end DeclDocs
