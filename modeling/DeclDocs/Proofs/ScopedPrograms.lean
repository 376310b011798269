import DeclDocs.Log.Sink
import DeclDocs.Run.Batch

/-!
Programs that log. They open scopes inside one another, name the run, look at the context, emit
records, and raise and catch errors at any point. A session carries a program out with a stack of
values to go back to, a journal by putting values back itself. Main statement: both do the same, and
however a program ends, only the name of the run can differ afterwards. Every record carries the
phase and the unit of the innermost blocks around it and the run that was named last before it.
Extracting files is such a program.
-/
namespace DeclDocs.Log

/-- A program, with the errors it may raise and the value it may give. What comes behind a program
may depend on its value, and a handler on the error that it catches. -/
inductive Program (ε : Type) : Type → Type 1 where
  | done {α : Type} (a : α) : Program ε α
  | andThen {α β : Type} (first : Program ε α) (next : α → Program ε β) : Program ε β
  | look : Program ε Context
  | emit (level : Level) (channel message : String) : Program ε Unit
  | setRun (generated : String) (name : Option String) : Program ε String
  | inPhase {α : Type} (phase : String) (body : Program ε α) : Program ε α
  | inUnit {α : Type} (unit : String) (body : Program ε α) : Program ε α
  | raise {α : Type} (e : ε) : Program ε α
  | attempt {α : Type} (body : Program ε α) (handler : ε → Program ε α) : Program ε α

def namedRun (generated : String) (name : Option String) : String :=
  (name.filter fun n => !n.isEmpty).getD generated

inductive Block where
  | phase (name : String)
  | unit (name : String)

namespace Block

def phase? : Block → Option String
  | phase name => some name
  | unit _ => none

def unit? : Block → Option String
  | phase _ => none
  | unit name => some name

end Block

/-- A step that a log shows. A record is emitted inside some blocks, given from the inside out. -/
inductive Step where
  | named (run : String)
  | emitted (blocks : List Block) (level : Level) (channel message : String)

namespace Step

def run? : Step → Option String
  | named run => some run
  | emitted .. => none

def lastRun (outer : String) (past : List Step) : String :=
  (past.filterMap run?).getLast?.getD outer

/-- The context inside some blocks behind some steps: the run that was named last, and for the phase
and the unit what the innermost block of the kind sets. What is missing is as it is outside. -/
def contextAt (outer : Context) (past : List Step) (blocks : List Block) : Context where
  run := lastRun outer.run past
  phase := (blocks.findSome? Block.phase?).getD outer.phase
  unit := (blocks.findSome? Block.unit?).getD outer.unit

def records (outer : Context) (past : List Step) : List Step → List Record
  | [] => []
  | named run :: rest => records outer (past ++ [named run]) rest
  | emitted blocks level channel message :: rest =>
      ⟨level, channel, message, contextAt outer past blocks⟩ ::
        records outer (past ++ [emitted blocks level channel message]) rest

variable (outer : Context) (past first second : List Step)

theorem records_append :
    records outer past (first ++ second) =
      records outer past first ++ records outer (past ++ first) second := by
  induction first generalizing past with
  | nil => simp [records]
  | cons step first ih =>
    cases step with
    | named run => simp [records, ih]
    | emitted blocks level channel message => simp [records, ih]

theorem contextAt_named (blocks : List Block) (run : String) :
    contextAt outer (past ++ [named run]) blocks = { contextAt outer past blocks with run } := by
  simp [contextAt, lastRun, run?]

theorem contextAt_emitted (blocks inner : List Block) (level : Level) (channel message : String) :
    contextAt outer (past ++ [emitted inner level channel message]) blocks =
      contextAt outer past blocks := by
  simp [contextAt, lastRun, run?]

end Step

open Step

namespace Program

variable {ε α β : Type}

def followed (done : List Step × α) (later : List Step × β) : List Step × β :=
  (done.1 ++ later.1, later.2)

/-- The steps of a program that stands inside some blocks behind some steps, and how it ends. What
it sees depends on its place alone: nothing is stored, and nothing has to be put back. -/
def course (outer : Context) :
    {α : Type} → Program ε α → List Block → List Step → List Step × Except ε α
  | _, done a, _, _ => ([], .ok a)
  | _, andThen first next, blocks, past =>
      let done := course outer first blocks past
      followed done (match done.2 with
        | .ok a => course outer (next a) blocks (past ++ done.1)
        | .error e => ([], .error e))
  | _, look, blocks, past => ([], .ok (contextAt outer past blocks))
  | _, emit level channel message, blocks, _ =>
      ([.emitted blocks level channel message], .ok ())
  | _, setRun generated name, _, _ =>
      ([.named (namedRun generated name)], .ok (namedRun generated name))
  | _, inPhase phase body, blocks, past => course outer body (.phase phase :: blocks) past
  | _, inUnit unit body, blocks, past => course outer body (.unit unit :: blocks) past
  | _, raise e, _, _ => ([], .error e)
  | _, attempt body handler, blocks, past =>
      let done := course outer body blocks past
      followed done (match done.2 with
        | .ok a => ([], .ok a)
        | .error e => course outer (handler e) blocks (past ++ done.1))

/-- Carry out a program in a session. A scope is left however its block ends. -/
def perform : {α : Type} → Program ε α → Session → Session × List Record × Except ε α
  | _, done a, s => (s, [], .ok a)
  | _, andThen first next, s =>
      let (s, records, outcome) := perform first s
      let (s, later, outcome) := match outcome with
        | .ok a => perform (next a) s
        | .error e => (s, [], .error e)
      (s, records ++ later, outcome)
  | _, look, s => (s, [], .ok s.context)
  | _, emit level channel message, s =>
      let (s, records, _) := s.run (Journal.emit level channel message)
      (s, records, .ok ())
  | _, setRun generated name, s =>
      let s := s.setRun generated name
      (s, [], .ok s.context.run)
  | _, inPhase phase body, s =>
      let (s, records, outcome) := perform body (s.enterPhase phase)
      (s.leave, records, outcome)
  | _, inUnit unit body, s =>
      let (s, records, outcome) := perform body (s.enterUnit unit)
      (s.leave, records, outcome)
  | _, raise e, s => (s, [], .error e)
  | _, attempt body handler, s =>
      let (s, records, outcome) := perform body s
      let (s, later, outcome) := match outcome with
        | .ok a => (s, [], .ok a)
        | .error e => perform (handler e) s
      (s, records ++ later, outcome)

def journal : {α : Type} → Program ε α → ExceptT ε Journal α
  | _, done a => pure a
  | _, andThen first next => journal first >>= fun a => journal (next a)
  | _, look => ExceptT.lift fun context => ⟨context, [], context⟩
  | _, emit level channel message => ExceptT.lift (Journal.emit level channel message)
  | _, setRun generated name => ExceptT.lift do
      Journal.setRun (namedRun generated name)
      return namedRun generated name
  | _, inPhase phase body => ExceptT.mk (Journal.inPhase phase (journal body).run)
  | _, inUnit unit body => ExceptT.mk (Journal.inUnit unit (journal body).run)
  | _, raise e => throw e
  | _, attempt body handler => ExceptT.mk do
      match ← (journal body).run with
      | .ok a => return .ok a
      | .error e => (journal (handler e)).run

section Place

variable (outer : Context) (blocks : List Block) (past : List Step)

def pageOf (done : List Step × α) : Journal.Page α :=
  ⟨contextAt outer (past ++ done.1) blocks, records outer past done.1, done.2⟩

variable {outer blocks past}

theorem pageOf_nil (a : α) :
    (⟨contextAt outer past blocks, [], a⟩ : Journal.Page α) = pageOf outer blocks past ([], a) := by
  simp [pageOf, records]

theorem bind_pageOf {x : Journal α} {f : α → Journal β} {done : List Step × α}
    {later : List Step × β} (hx : x (contextAt outer past blocks) = pageOf outer blocks past done)
    (hf : f done.2 (contextAt outer (past ++ done.1) blocks) =
      pageOf outer blocks (past ++ done.1) later) :
    (x >>= f) (contextAt outer past blocks) =
      pageOf outer blocks past (followed done later) := by
  change (⟨_, _, _⟩ : Journal.Page β) = _
  simp only [hx, pageOf] at hf ⊢
  simp [hf, followed, records_append]

theorem lift_pageOf {x : Journal α} {done : List Step × α}
    (h : x (contextAt outer past blocks) = pageOf outer blocks past done) :
    (ExceptT.lift x : ExceptT ε Journal α).run (contextAt outer past blocks) =
      pageOf outer blocks past (done.1, .ok done.2) := by
  change (⟨_, _, _⟩ : Journal.Page (Except ε α)) = _
  rw [h]
  exact congrArg (fun records => (⟨_, records, _⟩ : Journal.Page (Except ε α)))
    (List.append_nil _)

theorem emit_pageOf (level : Level) (channel message : String) :
    Journal.emit level channel message (contextAt outer past blocks) =
      pageOf outer blocks past ([.emitted blocks level channel message], ()) := by
  simp only [pageOf, contextAt_emitted]
  rfl

theorem setRun_pageOf (run : String) :
    (do Journal.setRun run; return run : Journal String) (contextAt outer past blocks) =
      pageOf outer blocks past ([.named run], run) := by
  simp only [pageOf, contextAt_named]
  rfl

theorem inPhase_pageOf {x : Journal α} {phase : String} {done : List Step × α}
    (h : x (contextAt outer past (.phase phase :: blocks)) =
      pageOf outer (.phase phase :: blocks) past done) :
    Journal.inPhase phase x (contextAt outer past blocks) = pageOf outer blocks past done := by
  have hinside : x { contextAt outer past blocks with phase } = _ := h
  rw [Journal.inPhase, hinside]
  rfl

theorem inUnit_pageOf {x : Journal α} {unit : String} {done : List Step × α}
    (h : x (contextAt outer past (.unit unit :: blocks)) =
      pageOf outer (.unit unit :: blocks) past done) :
    Journal.inUnit unit x (contextAt outer past blocks) = pageOf outer blocks past done := by
  have hinside : x { contextAt outer past blocks with unit } = _ := h
  rw [Journal.inUnit, hinside]
  rfl

end Place

/-- The page that a journal leaves for a program inside some blocks behind some steps. -/
theorem journal_at (outer : Context) (x : Program ε α) (blocks : List Block) (past : List Step) :
    (journal x).run (contextAt outer past blocks) =
      pageOf outer blocks past (course outer x blocks past) := by
  -- The blocks grow on the way into a scope, the steps on the way along the program.
  induction x generalizing blocks past with
  | done a => exact pageOf_nil _
  | andThen first next ihfirst ihnext =>
    unfold journal course
    apply bind_pageOf (ihfirst blocks past)
    cases (course outer first blocks past).2 with
    | error e => exact pageOf_nil _
    | ok a => exact ihnext a blocks _
  | look => exact lift_pageOf (pageOf_nil _)
  | emit level channel message => exact lift_pageOf (emit_pageOf level channel message)
  | setRun generated name => exact lift_pageOf (setRun_pageOf (namedRun generated name))
  | inPhase phase body ih => exact inPhase_pageOf (ih _ past)
  | inUnit unit body ih => exact inUnit_pageOf (ih _ past)
  | raise e => exact pageOf_nil _
  | attempt body handler ihbody ihhandler =>
    unfold journal course
    apply bind_pageOf (ihbody blocks past)
    cases (course outer body blocks past).2 with
    | error e => exact ihhandler e blocks _
    | ok a => exact pageOf_nil _

theorem run_bind (s : Session) (x : Journal α) (f : α → Journal β) :
    s.run (x >>= f) =
      let (s, records, a) := s.run x
      let (s, later, b) := s.run (f a)
      (s, records ++ later, b) := rfl

/-- Leaving scopes by hand does what a journal does by itself. -/
theorem perform_eq_run (x : Program ε α) (s : Session) :
    perform x s = s.run (journal x).run := by
  induction x generalizing s with
  | done a => rfl
  | andThen first next ihfirst ihnext =>
    unfold perform journal
    rw [ihfirst]
    refine Eq.trans ?_ (run_bind s (journal first).run _).symm
    obtain ⟨between, records, outcome⟩ := s.run (journal first).run
    cases outcome with
    | error e => rfl
    | ok a =>
      simp only [ihnext]
      rfl
  | look => rfl
  | emit level channel message => rfl
  | setRun generated name => rfl
  | inPhase phase body ih =>
    -- The block gives the stack back as it was, so the scope on top is the one that was entered.
    unfold perform
    rw [ih]
    rfl
  | inUnit unit body ih =>
    unfold perform
    rw [ih]
    rfl
  | raise e => rfl
  | attempt body handler ihbody ihhandler =>
    unfold perform journal
    rw [ihbody]
    refine Eq.trans ?_ (run_bind s (journal body).run _).symm
    obtain ⟨between, records, outcome⟩ := s.run (journal body).run
    cases outcome with
    | error e => simp only [ihhandler]
    | ok a => rfl

/-- A program that stands in no block leaves a session as it was, up to the name of the run. -/
theorem perform_from (x : Program ε α) (s : Session) :
    perform x s =
      ({ s with context := { s.context with
          run := lastRun s.context.run (course s.context x [] []).1 } },
        records s.context [] (course s.context x [] []).1, (course s.context x [] []).2) := by
  rw [perform_eq_run, Session.run]
  have hpage := journal_at s.context x [] []
  change (journal x).run s.context = _ at hpage
  rw [hpage]
  rfl

-- An error leaves two blocks at once; the run that was named inside stays named.
example :
    (andThen
      (attempt
        (inPhase "extract" (inUnit "A.cs" (andThen (setRun "made" (some "run")) fun _ => raise ())))
        fun _ => done ())
      fun _ => inUnit "B.cs" (emit .info "log" "next")).perform {} =
      ({ context := { run := "run" } }, [⟨.info, "log", "next", ⟨"run", "-", "B.cs"⟩⟩],
        (.ok () : Except Unit Unit)) := rfl

end Program

instance : LawfulMonad Journal :=
  LawfulMonad.mk' Journal
    (fun x => by
      funext context
      exact congrArg (fun records => (⟨_, records, _⟩ : Journal.Page _)) (List.append_nil _))
    (fun _ _ => rfl)
    (fun x f g => by
      funext context
      exact congrArg (fun records => (⟨_, records, _⟩ : Journal.Page _))
        (List.append_assoc _ _ _))

def IsProgram {ε α : Type} (x : ExceptT ε Journal α) : Prop :=
  ∃ program : Program ε α, program.journal = x

section Rules

variable {ε α β : Type}

theorem isProgram_pure (a : α) : IsProgram (pure a : ExceptT ε Journal α) := ⟨.done a, rfl⟩

theorem isProgram_ofExcept (r : Except ε α) : IsProgram (ofExcept r : ExceptT ε Journal α) := by
  cases r with
  | error e => exact ⟨.raise e, rfl⟩
  | ok a => exact isProgram_pure a

theorem isProgram_report (event : Event) :
    IsProgram (ExceptT.lift (Journal.report event) : ExceptT ε Journal Unit) :=
  ⟨.emit event.level event.channel event.message, rfl⟩

theorem IsProgram.bind {x : ExceptT ε Journal α} {f : α → ExceptT ε Journal β} (hx : IsProgram x)
    (hf : ∀ a, IsProgram (f a)) : IsProgram (x >>= f) := by
  obtain ⟨first, rfl⟩ := hx
  refine ⟨.andThen first fun a => (hf a).choose, ?_⟩
  simp only [Program.journal, fun a => (hf a).choose_spec]

theorem IsProgram.inUnit {x : ExceptT ε Journal α} (hx : IsProgram x) (unit : String) :
    IsProgram (ExceptT.mk (Journal.inUnit unit x.run)) := by
  obtain ⟨body, rfl⟩ := hx
  exact ⟨.inUnit unit body, rfl⟩

theorem isProgram_ofLogged (x : Logged α) :
    IsProgram (ExceptT.lift (Journal.ofLogged x) : ExceptT ε Journal α) := by
  obtain ⟨events, a⟩ := x
  induction events with
  | nil => exact isProgram_pure a
  | cons event events ih => exact (isProgram_report event).bind fun _ => ih

/-- An error may be caught and kept as a value. -/
theorem IsProgram.settled {x : ExceptT ε Journal α} (hx : IsProgram x) :
    IsProgram (ExceptT.lift x.run : ExceptT ε Journal (Except ε α)) := by
  obtain ⟨body, rfl⟩ := hx
  refine ⟨.attempt (.andThen body fun a => .done (.ok a)) fun e => .done (.error e), ?_⟩
  apply ExceptT.ext
  simp only [Program.journal, ExceptT.run_mk, ExceptT.run_bind, ExceptT.run_lift, bind_assoc,
    map_eq_pure_bind]
  apply bind_congr
  intro outcome
  cases outcome with
  | error e => simp
  | ok a => simp

theorem IsProgram.lift_bind {x : Journal α} {f : α → Journal β}
    (hx : IsProgram (ExceptT.lift x : ExceptT ε Journal α))
    (hf : ∀ a, IsProgram (ExceptT.lift (f a) : ExceptT ε Journal β)) :
    IsProgram (ExceptT.lift (x >>= f) : ExceptT ε Journal β) := by
  have hlift : (ExceptT.lift (x >>= f) : ExceptT ε Journal β) =
      ExceptT.lift x >>= fun a => ExceptT.lift (f a) := by
    apply ExceptT.ext
    simp [ExceptT.run_bind]
  rw [hlift]
  exact hx.bind hf

/-- A program that does not fail leaves the phase and the unit as they were. -/
theorem IsProgram.keeps_scopes {x : Journal α}
    (h : IsProgram (ExceptT.lift x : ExceptT ε Journal α)) (context : Context) :
    (x context).context.phase = context.phase ∧ (x context).context.unit = context.unit := by
  obtain ⟨program, hprogram⟩ := h
  have hpage := program.journal_at context [] []
  rw [hprogram] at hpage
  exact ⟨congrArg (fun page => page.context.phase) hpage,
    congrArg (fun page => page.context.unit) hpage⟩

end Rules

end DeclDocs.Log

namespace DeclDocs

open Log Extract

theorem isProgram_ofReading {α : Type} (x : Reading α) : IsProgram (Working.ofReading x) := by
  have hrun (r : Except Failure α) : (ofExcept r : Working α).run = pure r := by
    cases r with
    | error e => rfl
    | ok a => rfl
  have hsettled : Working.ofReading x =
      (ExceptT.lift (Journal.ofLogged x.run) : Working (Except Failure α)) >>= ofExcept := by
    apply ExceptT.ext
    simp [Working.ofReading, ExceptT.run_bind, hrun]
  rw [hsettled]
  exact (isProgram_ofLogged x.run).bind isProgram_ofExcept

variable (w : Workspace) (options : BatchOptions)

theorem isProgram_extractUnitFile (path : Path) (grammar : Option String) (root : Option Path) :
    IsProgram (extractUnitFile w path grammar root) := by
  unfold extractUnitFile
  cases hfile : w.store.isFile (w.store.absolute path) with
  | false =>
    simp only [hfile, Bool.not_false, if_true]
    exact ⟨.raise (.fileNotFound (w.store.absolute path)), rfl⟩
  | true =>
    simp only [hfile, Bool.not_true, Bool.false_eq_true, if_false]
    apply (isProgram_ofExcept _).bind
    intro g
    apply IsProgram.inUnit
    apply (isProgram_ofReading _).bind
    intro parsed
    split
    · apply (isProgram_report _).bind
      intro _
      exact (isProgram_ofLogged _).bind fun _ => isProgram_pure _
    · exact (isProgram_ofLogged _).bind fun _ => isProgram_pure _

theorem isProgram_runFiles (root : Path) (files : List Path) (stats : Stats) :
    IsProgram (ExceptT.lift (runFiles w options root files stats) : Working Batch) := by
  induction files generalizing stats with
  | nil => exact isProgram_pure _
  | cons file files ih =>
    unfold runFiles
    apply (isProgram_extractUnitFile w file options.grammar (some root)).settled.lift_bind
    intro outcome
    cases outcome with
    | ok unit => exact (ih _).lift_bind fun _ => isProgram_pure _
    | error e =>
      apply (isProgram_report _).lift_bind
      intro _
      simp only
      split
      · exact ih _
      · exact isProgram_pure _

theorem isProgram_runSource (source : Path) (stats : Stats) :
    IsProgram (ExceptT.lift (runSource w options source stats) : Working Batch) := by
  unfold runSource
  simp only
  split
  · exact isProgram_runFiles w options _ _ _
  · split
    · split
      · exact isProgram_pure _
      · apply (isProgram_ofLogged _).lift_bind
        intro files
        split
        · exact (isProgram_report _).lift_bind fun _ => isProgram_runFiles w options _ _ _
        · exact isProgram_runFiles w options _ _ _
    · exact isProgram_pure _

/-- However a program ends, a session is afterwards as it was, up to the run that was named last;
its records are those of its steps, each with the context at its place. This holds for scopes that
are left by hand and for scopes of a journal. In particular the phase and the unit are kept by
extracting any number of files, whether they fail or not. -/
theorem programs_keep_scopes :
    (∀ (ε α : Type) (x : Program ε α) (s : Session),
      let done := x.course s.context [] []
      x.perform s =
          ({ s with context := { s.context with run := Step.lastRun s.context.run done.1 } },
            Step.records s.context [] done.1, done.2) ∧
        s.run x.journal.run = x.perform s) ∧
    ∀ (w : Workspace) (options : BatchOptions) (stats : Stats) (context : Context),
      (∀ root files,
        let after := (runFiles w options root files stats context).context
        after.phase = context.phase ∧ after.unit = context.unit) ∧
      ∀ source,
        let after := (runSource w options source stats context).context
        after.phase = context.phase ∧ after.unit = context.unit := by
  refine ⟨fun ε α x s => ⟨x.perform_from s, (x.perform_eq_run s).symm⟩, ?_⟩
  intro w options stats context
  constructor
  · intro root files
    exact (isProgram_runFiles w options root files stats).keeps_scopes context
  · intro source
    exact (isProgram_runSource w options source stats).keeps_scopes context

end DeclDocs
