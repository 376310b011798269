import DeclDocs.Proofs.BatchRun

/-!
One run follows another if it does the same until it fails. Its log is then that of the other up to
the record of the failure, behind which it breaks off. A run that does not go on after failures
follows the run that does.
-/
namespace DeclDocs

open Log Journal

section Following

variable {α β : Type}

def Blames (e : Failure) (record : Record) : Prop :=
  ∃ path context, record = (Event.fileRejected path e.message).record context ∨
    record = (Event.fileCrashed path e.message).record context ∨
    record = (Event.sourceFailed path e.message).record context

/-- Two logs that are the same up to the record of a failure, after which the first only has what
is told here. -/
def BreaksOff (e : Failure) (told short long : List Record) : Prop :=
  ∃ common blame later, short = common ++ blame :: told ∧ long = common ++ blame :: later ∧
    Blames e blame

theorem BreaksOff.prepend {e : Failure} {told short long : List Record}
    (h : BreaksOff e told short long) (first : List Record) :
    BreaksOff e told (first ++ short) (first ++ long) := by
  obtain ⟨common, blame, later, rfl, rfl, hblame⟩ := h
  exact ⟨first ++ common, blame, later, by simp, by simp, hblame⟩

theorem BreaksOff.append {e : Failure} {told short long : List Record}
    (h : BreaksOff e told short long) (more : List Record) :
    BreaksOff e told short (long ++ more) := by
  obtain ⟨common, blame, later, rfl, rfl, hblame⟩ := h
  exact ⟨common, blame, later ++ more, rfl, by simp, hblame⟩

/-- One computation does the same as another, unless it fails; its log then breaks off. -/
def Follows (failure : α → Option Failure) (tail : Failure → List Record → Prop)
    (x y : Journal α) : Prop :=
  ∀ context, x context = y context ∨
    ∃ e told, failure (x context).value = some e ∧ tail e told ∧
      BreaksOff e told (x context).records (y context).records

theorem bind_apply (x : Journal α) (f : α → Journal β) (context : Context) :
    (x >>= f) context =
      { f (x context).value (x context).context with
        records := (x context).records ++ (f (x context).value (x context).context).records } := rfl

section Rules

variable {failure : β → Option Failure} {tail : Failure → List Record → Prop}

theorem follows_refl (x : Journal β) : Follows failure tail x x := fun _ => .inl rfl

theorem Follows.after (x : Journal α) {f g : α → Journal β}
    (h : ∀ a, Follows failure tail (f a) (g a)) : Follows failure tail (x >>= f) (x >>= g) := by
  intro context
  rw [bind_apply, bind_apply]
  rcases h (x context).value (x context).context with hsame | ⟨e, told, hfailure, htold, hbreaks⟩
  · exact .inl (by rw [hsame])
  · exact .inr ⟨e, told, hfailure, htold, hbreaks.prepend _⟩

/-- What is done with the result goes on following if it passes a failure on in silence. -/
theorem Follows.finish {stopped : α → Option Failure} {x y : Journal α}
    (h : Follows stopped tail x y) {f : α → Journal β}
    (hf : ∀ a e context, stopped a = some e →
      failure (f a context).value = some e ∧ (f a context).records = []) :
    Follows failure tail (x >>= f) (y >>= f) := by
  intro context
  rw [bind_apply, bind_apply]
  rcases h context with hsame | ⟨e, told, hfailure, htold, hbreaks⟩
  · exact .inl (by rw [hsame])
  · obtain ⟨hvalue, hsilent⟩ := hf _ e (x context).context hfailure
    refine .inr ⟨e, told, hvalue, htold, ?_⟩
    rw [hsilent, List.append_nil]
    exact hbreaks.append _

theorem Follows.inPhase {x y : Journal β} (h : Follows failure tail x y) (phase : String) :
    Follows failure tail (Journal.inPhase phase x) (Journal.inPhase phase y) := by
  intro context
  rcases h { context with phase } with hsame | hbroken
  · exact .inl (by rw [Journal.inPhase, Journal.inPhase, hsame])
  · exact .inr hbroken

/-- Stopping right behind the record of a failure follows whatever comes there otherwise. -/
theorem follows_stop {e : Failure} {event : Event}
    (hblame : ∀ context, Blames e (event.record context)) {b : β} (hfailure : failure b = some e)
    (htail : tail e []) (rest : Journal β) :
    Follows failure tail (report event >>= fun _ => pure b) (report event >>= fun _ => rest) :=
  fun context => .inr ⟨e, [], hfailure, htail, [], event.record context, (rest context).records,
    rfl, rfl, hblame context⟩

/-- A computation that breaks off right at its failure may be followed by one that tells of it. -/
theorem Follows.bind {stopped : α → Option Failure} {x y : Journal α} {f g : α → Journal β}
    (h : Follows stopped (fun _ told => told = []) x y)
    (hsame : ∀ a, Follows failure tail (f a) (g a))
    (hstopped : ∀ a e context, stopped a = some e →
      failure (f a context).value = some e ∧ tail e (f a context).records) :
    Follows failure tail (x >>= f) (y >>= g) := by
  intro context
  rcases h context with heq | ⟨e, told, hfailure, rfl, common, blame, later, hshort, hlong, hblame⟩
  · have hafter := Follows.after x hsame context
    have hbind : (y >>= g) context = (x >>= g) context := by rw [bind_apply, bind_apply, heq]
    rwa [hbind]
  · obtain ⟨hvalue, htail⟩ := hstopped _ e (x context).context hfailure
    have hlong' : ((y >>= g) context).records = common ++ blame ::
        (later ++ (g (y context).value (y context).context).records) := by
      rw [bind_apply, hlong, List.append_assoc, List.cons_append]
    refine .inr ⟨e, _, hvalue, htail, common, blame, _, ?_, hlong', hblame⟩
    rw [bind_apply, hshort, List.append_assoc]
    rfl

end Rules

variable (w : Workspace) (options : BatchOptions) (stats : Stats)

theorem follows_runFiles (root : Path) (files : List Path) :
    Follows Batch.failure (fun _ told => told = [])
      (runFiles w { options with goOn := false } root files stats)
      (runFiles w { options with goOn := true } root files stats) := by
  induction files generalizing stats with
  | nil => exact follows_refl _
  | cons file files ih =>
    unfold runFiles
    apply Follows.after
    intro outcome
    cases outcome with
    | ok unit => exact (ih (stats.record unit)).finish fun _ _ _ hfailure => ⟨hfailure, rfl⟩
    | error e =>
      have hblame (context : Context) : Blames e ((if e.isForeseen then
          Event.fileRejected (Path.text file) e.message
          else Event.fileCrashed (Path.text file) e.message).record context) := by
        cases e.isForeseen with
        | true => exact ⟨Path.text file, context, .inl rfl⟩
        | false => exact ⟨Path.text file, context, .inr (.inl rfl)⟩
      simp only [Bool.false_eq_true, if_false, if_true]
      refine follows_stop hblame ?_ ?_ _
      · rfl
      · rfl

theorem follows_runSource (source : Path) :
    Follows Batch.failure (fun _ told => told = [])
      (runSource w { options with goOn := false } source stats)
      (runSource w { options with goOn := true } source stats) := by
  unfold runSource
  simp only
  split
  · exact follows_runFiles w options stats _ _
  · split
    · split
      · exact follows_refl _
      · apply Follows.after
        intro files
        split
        · exact Follows.after _ fun _ => follows_runFiles w options stats _ _
        · exact follows_runFiles w options stats _ _
    · exact follows_refl _

def TellsSource (e : Failure) (told : List Record) : Prop :=
  told = [] ∨ ∃ path context, told = [(Event.sourceFailed path e.message).record context]

attribute [local irreducible] runSource in
theorem follows_runSources (excluded : Option (List String)) (specs : List SourceSpec) :
    Follows Harvest.failure TellsSource (runSources w false excluded specs stats)
      (runSources w true excluded specs stats) := by
  induction specs generalizing stats with
  | nil => exact follows_refl (pure (Harvest.mk [] [] stats none))
  | cons spec specs ih =>
    have hsource : Follows Batch.failure (fun _ told => told = [])
        (runSource w (optionsOf excluded spec false) (Path.ofString spec.path) stats)
        (runSource w (optionsOf excluded spec true) (Path.ofString spec.path) stats) :=
      follows_runSource w (optionsOf excluded spec true) stats _
    refine Follows.bind hsource ?_ ?_
    · rintro ⟨units, counts, failure⟩
      cases failure with
      | none => exact (ih counts).finish fun _ _ _ hfailure => ⟨hfailure, rfl⟩
      | some e =>
        simp only [Bool.and_false, Bool.and_true]
        cases hforeseen : e.isForeseen with
        | false =>
          -- The two sides still differ in a branch that is not taken; it has to go first.
          simp only [Bool.false_eq_true, if_false]
          exact follows_refl _
        | true =>
          have hblame (context : Context) :
              Blames e ((Event.sourceFailed spec.path e.message).record context) :=
            ⟨spec.path, context, .inr (.inr rfl)⟩
          simp only [Bool.false_eq_true, if_false, if_true]
          refine follows_stop hblame ?_ ?_ _
          · rfl
          · exact .inl rfl
    · rintro ⟨units, counts, failure⟩ e context hfailure
      obtain rfl : failure = some e := hfailure
      simp only [Bool.and_false]
      cases hforeseen : e.isForeseen with
      | false => exact ⟨rfl, .inl rfl⟩
      | true => exact ⟨rfl, .inr ⟨spec.path, context, rfl⟩⟩

end Following

end DeclDocs
