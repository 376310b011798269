import DeclDocs.Proofs.OctetText
import DeclDocs.Settings.Load

/-!
How settings are read under the two policies. Each step of reading settles on a value: the lenient
reader gives that value, and what is not sound it reports and replaces by what is standard. The
strict reader gives the same value if all is sound, and otherwise fails with what the lenient one
reports first. Only a file that cannot be read at all ends both readers alike.
-/
namespace DeclDocs.Settings

open Log Text

variable {α β : Type}

section Loading

variable {x : Loading α} {f : α → Loading β}

theorem run_bind_of_ok {a : α} (h : x.run.value = .ok a) :
    (x >>= f).run = ⟨x.run.events ++ (f a).run.events, (f a).run.value⟩ := by
  change (x.run >>= ExceptT.bindCont f) = _
  simp only [bind, h]
  rfl

theorem run_bind_of_error {e : LoadError} (h : x.run.value = .error e) :
    (x >>= f).run = ⟨x.run.events, .error e⟩ := by
  change (x.run >>= ExceptT.bindCont f) = _
  simp only [bind, h]
  change Logged.mk (x.run.events ++ []) _ = _
  rw [List.append_nil]
  rfl

end Loading

/-- What a step of reading settles on, and whether all that it looks at is sound. -/
structure Settles (read : Policy → Loading α) (a : α) (isSound : Prop) : Prop where
  lenient : (read .lenient).run.value = .ok a
  sound : isSound → (read .lenient).run.events = [] ∧ (read .strict).run.value = .ok a
  unsound : ¬ isSound → ∃ cause rest,
    (read .lenient).run.events = .settingProblem cause.message cause.fallback :: rest ∧
      (read .strict).run.value = .error (.problem cause)

section Settling

variable {read : Policy → Loading α} {a : α} {P Q : Prop}

theorem Settles.congr (h : Settles read a P) (hiff : P ↔ Q) : Settles read a Q :=
  ⟨h.lenient, fun hq => h.sound (hiff.mpr hq), fun hq => h.unsound fun hp => hq (hiff.mp hp)⟩

/-- Whatever the policy, a result is the one that is settled on. -/
theorem Settles.eq_of_ok {b : α} (h : Settles read a P) {policy : Policy}
    (hb : (read policy).run.value = .ok b) : b = a := by
  cases policy with
  | lenient => exact (Except.ok.inj (h.lenient.symm.trans hb)).symm
  | strict =>
    by_cases hsound : P
    · exact (Except.ok.inj ((h.sound hsound).2.symm.trans hb)).symm
    · obtain ⟨cause, -, -, hfails⟩ := h.unsound hsound
      simp [hfails] at hb

theorem settles_pure (a : α) (hsound : P) : Settles (fun _ => pure a) a P :=
  ⟨rfl, fun _ => ⟨rfl, rfl⟩, fun h => absurd hsound h⟩

/-- A problem is settled by a standard value. -/
theorem settles_reject (cause : Problem) (a : α) (hunsound : ¬ P) :
    Settles (fun policy => reject policy cause >>= fun _ => pure a) a P :=
  ⟨rfl, fun h => absurd h hunsound, fun _ => ⟨cause, [], rfl, rfl⟩⟩

/-- Steps settle one after the other; the first problem is that of the first unsound step. -/
theorem Settles.bind {next : Policy → α → Loading β} {b : β} (hfirst : Settles read a P)
    (hnext : Settles (fun policy => next policy a) b Q) :
    Settles (fun policy => read policy >>= next policy) b (P ∧ Q) := by
  have hlenient : (read .lenient >>= next .lenient).run =
      ⟨(read .lenient).run.events ++ (next .lenient a).run.events, (next .lenient a).run.value⟩ :=
    run_bind_of_ok hfirst.lenient
  constructor
  case lenient => rw [hlenient, hnext.lenient]
  case sound =>
    rintro ⟨hp, hq⟩
    obtain ⟨hquiet, hstrict⟩ := hfirst.sound hp
    obtain ⟨hquiet', hstrict'⟩ := hnext.sound hq
    rw [hlenient, hquiet, hquiet', run_bind_of_ok hstrict, hstrict']
    exact ⟨rfl, rfl⟩
  case unsound =>
    intro hboth
    by_cases hp : P
    · obtain ⟨hquiet, hstrict⟩ := hfirst.sound hp
      obtain ⟨cause, rest, hevents, hfails⟩ := hnext.unsound fun hq => hboth ⟨hp, hq⟩
      refine ⟨cause, rest, ?_, ?_⟩
      · rw [hlenient, hquiet, hevents, List.nil_append]
      · rw [run_bind_of_ok hstrict, hfails]
    · obtain ⟨cause, rest, hevents, hfails⟩ := hfirst.unsound hp
      refine ⟨cause, rest ++ (next .lenient a).run.events, ?_, ?_⟩
      · rw [hlenient, hevents, List.cons_append]
      · rw [run_bind_of_error hfails]

/-- A last step that cannot go wrong. -/
theorem Settles.map (h : Settles read a P) (f : α → β) :
    Settles (fun policy => read policy >>= fun a => pure (f a)) (f a) P :=
  (h.bind (settles_pure (f a) trivial)).congr (by simp)

end Settling

def Passes (name : String) (check : Value → Option α) (entries : Entries) : Prop :=
  ∀ value, setting? name entries = some value → (check value).isSome = true

def checkedOr (name : String) (check : Value → Option α) (standard : α) (entries : Entries) : α :=
  ((setting? name entries).bind check).getD standard

theorem settles_readChecked (name : String) (check : Value → Option α) (cause : Value → Problem)
    (standard : α) (entries : Entries) :
    Settles (fun policy => readChecked policy name check cause standard entries)
      (checkedOr name check standard entries) (Passes name check entries) := by
  unfold readChecked checkedOr Passes
  cases setting? name entries with
  | none => exact settles_pure standard (by simp)
  | some value =>
    simp only [Option.bind_some, Option.some.injEq, forall_eq']
    cases check value with
    | none => exact settles_reject _ standard (by simp)
    | some a => exact settles_pure a (by simp)

section Sources

variable (known : Option (List String))

def isKnown (grammar : String) : Bool := known.all fun names => names.contains grammar

theorem settles_sourceGrammar (path : String) (value : Option Value) :
    Settles (fun policy => sourceGrammar policy known path value)
      ((writtenGrammar value).filter (isKnown known))
      (∀ grammar, writtenGrammar value = some grammar → isKnown known grammar = true) := by
  unfold sourceGrammar
  cases writtenGrammar value with
  | none => exact settles_pure none (by simp)
  | some grammar =>
    simp only [Option.filter_some, Option.some.injEq, forall_eq']
    cases known with
    | none => exact settles_pure (some grammar) rfl
    | some names =>
      by_cases hknown : names.contains grammar = true
      · simp only [isKnown, Option.all_some, hknown, if_true]
        exact settles_pure (some grammar) trivial
      · simp only [isKnown, Option.all_some, hknown]
        exact settles_reject _ none (by simp)

def IsSoundSource (value : Value) : Prop :=
  ∃ entries, sourceEntries? value = some entries ∧ writtenPath entries ≠ "" ∧
    ∀ grammar, writtenGrammar (setting? "grammar" entries) = some grammar →
      isKnown known grammar = true

/-- What is made of a source: nothing if it has no path, and a grammar that is not known is left
out. -/
def sourceFrom (value : Value) : Option SourceSpec := do
  let entries ← sourceEntries? value
  if writtenPath entries = "" then none
  else
    some ⟨writtenPath entries,
      (writtenGrammar (setting? "grammar" entries)).filter (isKnown known)⟩

theorem settles_source (value : Value) :
    Settles (fun policy => source policy known value) (sourceFrom known value)
      (IsSoundSource known value) := by
  unfold source sourceFrom IsSoundSource
  cases sourceEntries? value with
  | none => exact settles_reject _ none (by simp)
  | some entries =>
    simp only [sourceOfEntries, Option.some.injEq, exists_eq_left', Option.bind_eq_bind,
      Option.bind_some, String.isEmpty_iff]
    by_cases hpath : writtenPath entries = ""
    · simp only [hpath, if_true]
      exact settles_reject _ none (by simp)
    · simp only [hpath, if_false]
      have hgrammar :=
        settles_sourceGrammar known (writtenPath entries) (setting? "grammar" entries)
      exact (hgrammar.map fun g => some (SourceSpec.mk (writtenPath entries) g)).congr
        (by simp [hpath])

theorem settles_sourceList (values : List Value) :
    Settles (fun policy => sourceList policy known values) (values.filterMap (sourceFrom known))
      (∀ value ∈ values, IsSoundSource known value) := by
  induction values with
  | nil => exact settles_pure [] (by simp)
  | cons value rest ih =>
    have hvalue : (value :: rest).filterMap (sourceFrom known) =
        (sourceFrom known value).toList ++ rest.filterMap (sourceFrom known) := by
      cases hsource : sourceFrom known value with
      | none => simp [hsource]
      | some spec => simp [hsource]
    rw [hvalue]
    change Settles (fun policy => source policy known value >>= fun first =>
      sourceList policy known rest >>= fun later => pure (first.toList ++ later)) _ _
    exact ((settles_source known value).bind (ih.map _)).congr (by simp)

end Sources

theorem settles_readSources (known : Option (List String)) (entries : Entries) :
    Settles (fun policy => readSources policy known entries)
      ((checkedOr "sources" Value.items? [] entries).filterMap (sourceFrom known))
      (Passes "sources" Value.items? entries ∧
        ∀ value ∈ checkedOr "sources" Value.items? [] entries, IsSoundSource known value) :=
  (settles_readChecked "sources" Value.items? _ [] entries).bind (settles_sourceList known _)

structure IsSound (known : Option (List String)) (entries : Entries) : Prop where
  sources : ∀ value, setting? "sources" entries = some value →
    ∃ values, value = .list values ∧ ∀ v ∈ values, IsSoundSource known v
  excluded : ∀ value, setting? "exclude_dirs" entries = some value →
    value = .null ∨ ∃ names : List String, value = .list (names.map .text)
  continueOnError : ∀ value, setting? "continue_on_error" entries = some value →
    ∃ isOn, value = .bool isOn
  logLevel : ∀ value, setting? "log_level" entries = some value →
    levelWord value ∈ levelNames.map Prod.fst

section Checks

variable {value : Value}

theorem isSome_bool?_iff : value.bool?.isSome = true ↔ ∃ isOn, value = .bool isOn := by
  cases value <;> simp [Value.bool?]

theorem mapM_text?_eq_some_iff {values : List Value} {names : List String} :
    values.mapM Value.text? = some names ↔ values = names.map .text := by
  induction values generalizing names with
  | nil => cases names <;> simp
  | cons value values ih =>
    cases names with
    | nil => simp [List.mapM_cons, Option.bind_eq_some_iff]
    | cons name names =>
      cases value <;> simp [List.mapM_cons, Value.text?, Option.bind_eq_some_iff, ih]
      exact and_comm

theorem isSome_directoryNames?_iff : (directoryNames? value).isSome = true ↔
    value = .null ∨ ∃ names : List String, value = .list (names.map .text) := by
  cases value with
  | list values =>
    simp [directoryNames?, Option.isSome_iff_exists, mapM_text?_eq_some_iff]
  | _ => simp [directoryNames?]

theorem isSome_lookup_iff {word : String} {levels : List (String × Level)} :
    (levels.lookup word).isSome = true ↔ word ∈ levels.map Prod.fst := by
  rw [List.lookup_isSome_iff, List.mem_map]
  constructor
  · rintro ⟨level, hlevel, hword⟩
    exact ⟨level, hlevel, (beq_iff_eq.mp hword).symm⟩
  · rintro ⟨level, hlevel, rfl⟩
    exact ⟨level, hlevel, beq_self_eq_true level.1⟩

end Checks

theorem isSound_iff {known : Option (List String)} {entries : Entries} :
    IsSound known entries ↔
      (Passes "sources" Value.items? entries ∧
        ∀ value ∈ checkedOr "sources" Value.items? [] entries, IsSoundSource known value) ∧
      Passes "exclude_dirs" directoryNames? entries ∧
      Passes "continue_on_error" Value.bool? entries ∧
      Passes "log_level" (fun value => levelNames.lookup (levelWord value)) entries := by
  have hsources : (Passes "sources" Value.items? entries ∧
        ∀ value ∈ checkedOr "sources" Value.items? [] entries, IsSoundSource known value) ↔
      ∀ value, setting? "sources" entries = some value →
        ∃ values, value = .list values ∧ ∀ v ∈ values, IsSoundSource known v := by
    unfold Passes checkedOr
    cases setting? "sources" entries with
    | none => simp
    | some value => cases value <;> simp [Value.items?]
  rw [hsources]
  simp only [Passes, isSome_directoryNames?_iff, isSome_bool?_iff, isSome_lookup_iff]
  constructor
  · rintro ⟨hsources, hexcluded, hswitch, hlevel⟩
    exact ⟨hsources, hexcluded, hswitch, hlevel⟩
  · rintro ⟨hsources, hexcluded, hswitch, hlevel⟩
    exact ⟨hsources, hexcluded, hswitch, hlevel⟩

def settled (known : Option (List String)) (entries : Entries) (base : String) : Settings :=
  let standard : Settings := {}
  { sources := (checkedOr "sources" Value.items? [] entries).filterMap (sourceFrom known)
    excluded := checkedOr "exclude_dirs" directoryNames? standard.excluded entries
    outputFile := readText "output_file" standard.outputFile entries
    reportDirectory := readText "report_dir" standard.reportDirectory entries
    continueOnError :=
      checkedOr "continue_on_error" Value.bool? standard.continueOnError entries
    logLevel :=
      checkedOr "log_level" (fun value => levelNames.lookup (levelWord value)) standard.logLevel
        entries
    baseDirectory := base }

def mapping? : Value → Option Entries
  | .mapping entries => some entries
  | _ => none

section Files

variable (reader : TextReader) (store : Store) (path : Path)

def valueIn : Option Value := do
  let octets ← (store.read (Path.tidy path)).toOption
  let text ← Utf8.decode? octets
  (reader path (unifyLineEnds text)).toOption

def entriesIn : Entries := ((valueIn reader store path).bind mapping?).getD []

def HoldsMapping : Prop := ∃ entries, valueIn reader store path = some (.mapping entries)

/-- Why a file cannot be read at all, which no policy covers. -/
inductive Unreadable : LoadError → Prop
  | refused {e : SystemError} (hread : store.read (Path.tidy path) = .error e)
      (hentry : e.refusal ≠ .noEntry) : Unreadable (.refused e)
  | notText {octets : List UInt8} (hread : store.read (Path.tidy path) = .ok octets)
      (htext : Utf8.decode? octets = none) : Unreadable .notText
  | meaningless {octets : List UInt8} {text : List Char} {reason : String}
      (hread : store.read (Path.tidy path) = .ok octets) (htext : Utf8.decode? octets = some text)
      (hvalue : reader path (unifyLineEnds text) = .error (.meaningless reason)) :
      Unreadable (.meaningless reason)

variable {reader store path}

theorem contentOf_eq_error_iff {e : LoadError} :
    contentOf reader store path = .error e ↔ Unreadable reader store path e := by
  constructor
  · intro h
    simp only [contentOf] at h
    split at h
    · rename_i cause hread
      split at h
      · simp at h
      · rename_i hentry
        exact Except.error.inj h ▸ .refused hread hentry
    · rename_i octets hread
      split at h
      · rename_i htext
        exact Except.error.inj h ▸ .notText hread htext
      · rename_i text htext
        split at h
        · simp at h
        · simp at h
        · rename_i reason hvalue
          exact Except.error.inj h ▸ .meaningless hread htext hvalue
  · rintro (⟨hread, hentry⟩ | ⟨hread, htext⟩ | ⟨hread, htext, hvalue⟩)
    · simp [contentOf, hread, hentry]
    · simp [contentOf, hread, htext]
    · simp [contentOf, hread, htext, hvalue]

theorem valueIn_of_contentOf {content : Except Problem Value}
    (h : contentOf reader store path = .ok content) :
    valueIn reader store path = content.toOption := by
  simp only [contentOf] at h
  unfold valueIn
  split at h
  · rename_i e hread
    split at h
    · rw [← Except.ok.inj h, hread]
      rfl
    · simp at h
  · rename_i octets hread
    split at h
    · simp at h
    · rename_i text htext
      split at h
      · rename_i value hvalue
        simp [← Except.ok.inj h, hread, htext, hvalue, Except.toOption]
      · rename_i detail hvalue
        simp [← Except.ok.inj h, hread, htext, hvalue, Except.toOption]
      · simp at h

theorem settles_entriesOf (place : String) (value : Value) :
    Settles (fun policy => entriesOf policy place value) ((mapping? value).getD [])
      (∃ entries, value = .mapping entries) := by
  cases value with
  | mapping entries => exact settles_pure entries ⟨entries, rfl⟩
  | _ => exact settles_reject _ [] (by simp)

/-- The entries of a file are settled, unless the file cannot be read at all. -/
theorem settles_readEntries {content : Except Problem Value}
    (h : contentOf reader store path = .ok content) :
    Settles (fun policy => readEntries reader store policy path) (entriesIn reader store path)
      (HoldsMapping reader store path) := by
  unfold readEntries entriesIn HoldsMapping
  rw [valueIn_of_contentOf h, h]
  cases content with
  | ok value =>
    have hvalue := settles_entriesOf (Path.text (Path.tidy path)) value
    exact hvalue.congr (by simp [Except.toOption])
  | error cause => exact settles_reject cause [] (by simp [Except.toOption])

/-- Settings are settled as their entries are. -/
theorem settles_loadBy (known : Option (List String)) {content : Except Problem Value}
    (h : contentOf reader store path = .ok content) :
    Settles (fun policy => loadBy reader store policy known path)
      (settled known (entriesIn reader store path) (baseOf store path))
      (HoldsMapping reader store path ∧ IsSound known (entriesIn reader store path)) := by
  have hsources := settles_readSources known (entriesIn reader store path)
  have hexcluded := settles_readChecked "exclude_dirs" directoryNames?
    (fun _ => .excludedNotNames) none (entriesIn reader store path)
  have hswitch := settles_readChecked "continue_on_error" Value.bool?
    (fun _ => .switchNotBool "continue_on_error" true) true (entriesIn reader store path)
  have hlevel := settles_readChecked "log_level" (fun value => levelNames.lookup (levelWord value))
    (fun value => .levelUnknown (levelWord value) Level.info.name) .info
    (entriesIn reader store path)
  simp only [loadBy]
  rw [isSound_iff]
  exact Settles.bind (settles_readEntries h) (Settles.bind hsources
    (Settles.bind hexcluded (Settles.bind hswitch (Settles.map hlevel _))))

theorem loadBy_of_unreadable {e : LoadError} (h : Unreadable reader store path e)
    (policy : Policy) (known : Option (List String)) :
    (loadBy reader store policy known path).run = ⟨[], .error e⟩ := by
  have hentries : (readEntries reader store policy path).run = ⟨[], .error e⟩ := by
    unfold readEntries
    rw [contentOf_eq_error_iff.mpr h]
    rfl
  have hvalue : (readEntries reader store policy path).run.value = .error e := by rw [hentries]
  simp only [loadBy]
  rw [run_bind_of_error hvalue, hentries]

theorem Unreadable.ne_problem {e : LoadError} (h : Unreadable reader store path e)
    (cause : Problem) : e ≠ .problem cause := by
  cases h <;> simp

variable (reader store path) in
/-- A file can be read or it cannot. -/
theorem readable_or_unreadable :
    (∃ e, Unreadable reader store path e) ∨
      ∃ content, contentOf reader store path = .ok content := by
  cases hcontent : contentOf reader store path with
  | error e => exact .inl ⟨e, contentOf_eq_error_iff.mp hcontent⟩
  | ok content => exact .inr ⟨content, rfl⟩

end Files

def warnings (events : List Event) : List String :=
  (events.filter fun event => event.level == .warning).map Event.message

theorem warnings_settingProblem (problem fallback : String) (events : List Event) :
    warnings (.settingProblem problem fallback :: events) =
      (problem ++ "; " ++ fallback) :: warnings events := by
  rw [warnings, List.filter_cons_of_pos rfl]
  rfl

/-- The policies only differ in what they do with problems. Either both readers end alike, for a
reason that is no problem; or there is no problem, and they agree and nothing is reported; or the
strict one fails with the problem that the lenient one reports first. -/
theorem load_differs_by_problems (reader : TextReader) (store : Store)
    (known : Option (List String)) (path : Path) :
    let strict := (loadBy reader store .strict known path).run
    let lenient := (loadBy reader store .lenient known path).run
    ((∃ e, (∀ cause, e ≠ .problem cause) ∧ Unreadable reader store path e ∧
        strict.value = .error e ∧ lenient.value = .error e ∧ warnings lenient.events = []) ∨
      (∃ settings, strict.value = .ok settings ∧ lenient.value = .ok settings ∧
        warnings lenient.events = []) ∨
      ∃ cause settings, strict.value = .error (.problem cause) ∧ lenient.value = .ok settings ∧
        (warnings lenient.events).head? = some (cause.message ++ "; " ++ cause.fallback)) ∧
    ((∃ cause, strict.value = .error (.problem cause)) ↔ warnings lenient.events ≠ []) := by
  intro strict lenient
  rcases readable_or_unreadable reader store path with ⟨e, he⟩ | ⟨content, hcontent⟩
  · have hstrict : strict = ⟨[], .error e⟩ := loadBy_of_unreadable he .strict known
    have hlenient : lenient = ⟨[], .error e⟩ := loadBy_of_unreadable he .lenient known
    rw [hstrict, hlenient]
    refine ⟨.inl ⟨e, he.ne_problem, he, rfl, rfl, rfl⟩, ?_⟩
    simp [warnings, he.ne_problem]
  · have hsettles := settles_loadBy known hcontent
    by_cases hsound : HoldsMapping reader store path ∧ IsSound known (entriesIn reader store path)
    · obtain ⟨hquiet, hstrict⟩ := hsettles.sound hsound
      have hnone : warnings lenient.events = [] := by rw [hquiet]; rfl
      refine ⟨.inr (.inl ⟨_, hstrict, hsettles.lenient, hnone⟩), ?_⟩
      simp [strict, hstrict, hnone]
    · obtain ⟨cause, rest, hevents, hstrict⟩ := hsettles.unsound hsound
      have hwarned : warnings lenient.events =
          (cause.message ++ "; " ++ cause.fallback) :: warnings rest := by
        rw [hevents, warnings_settingProblem]
      refine ⟨.inr (.inr ⟨cause, _, hstrict, hsettles.lenient, ?_⟩), ?_⟩
      · rw [hwarned, List.head?_cons]
      · simp [strict, hstrict, hwarned]

-- Two problems: the strict reader ends at the first, and the lenient one reports both.
example :
    let reader : TextReader := fun _ _ => .ok (.mapping [(.text "sources", .list [.int 1]),
      (.text "continue_on_error", .text "no")])
    let store : Store := { root := .directory [(['c'], .file [])], workingDirectory := ['/'] }
    let lenient := (loadBy reader store .lenient none ['c']).run
    (loadBy reader store .strict none ['c']).run.value = .error (.problem (.sourceNotEntry "int")) ∧
      lenient.value = .ok { baseDirectory := "/" } ∧
      warnings lenient.events = ["Source entry must be a path or an object, got int; skipping",
        "'continue_on_error' must be true or false; using True"] := by
  decide +kernel

/-- A file is handled as the policies say: what is not sound is a problem for the strict reader,
and the lenient one puts the standard values in its place. -/
structure KeepsPolicy (reader : TextReader) (store : Store) (known : Option (List String))
    (path : Path) : Prop where
  sound : HoldsMapping reader store path ∧ IsSound known (entriesIn reader store path) →
    (loadBy reader store .strict known path).run.value =
      .ok (settled known (entriesIn reader store path) (baseOf store path))
  unsound : ¬ (HoldsMapping reader store path ∧ IsSound known (entriesIn reader store path)) →
    ∃ cause, (loadBy reader store .strict known path).run.value = .error (.problem cause)
  lenient : (loadBy reader store .lenient known path).run.value =
    .ok (settled known (entriesIn reader store path) (baseOf store path))

/-- The policies are kept exactly for files that can be read, or are not there. Otherwise neither
reader gives settings, and both end with the failure as it is. -/
theorem keepsPolicy_iff (reader : TextReader) (store : Store) (known : Option (List String))
    (path : Path) :
    (KeepsPolicy reader store known path ↔ ∀ e, ¬ Unreadable reader store path e) ∧
      ∀ e, Unreadable reader store path e → ∀ policy,
        (loadBy reader store policy known path).run.value = .error e := by
  have hends : ∀ e, Unreadable reader store path e → ∀ policy,
      (loadBy reader store policy known path).run.value = .error e := by
    intro e he policy
    rw [loadBy_of_unreadable he]
  refine ⟨⟨?_, ?_⟩, hends⟩
  · intro hkeeps e he
    have hlenient := hkeeps.lenient
    rw [hends e he .lenient] at hlenient
    simp at hlenient
  · intro hreadable
    rcases readable_or_unreadable reader store path with ⟨e, he⟩ | ⟨content, hcontent⟩
    · exact absurd he (hreadable e)
    · have hsettles := settles_loadBy known hcontent
      constructor
      case sound => exact fun hsound => (hsettles.sound hsound).2
      case unsound =>
        intro hunsound
        obtain ⟨cause, -, -, hstrict⟩ := hsettles.unsound hunsound
        exact ⟨cause, hstrict⟩
      case lenient => exact hsettles.lenient

def storeWith (tree : FileTree) : Store where
  root := .directory [("run.yml".toList, tree)]
  workingDirectory := ['/']

def EndsBoth (tree : FileTree) (e : LoadError) : Prop :=
  (load (storeWith tree) .strict none "run.yml".toList).run.value = .error e ∧
    (load (storeWith tree) .lenient none "run.yml".toList).run.value = .error e

theorem endsBoth_of_unreadable {tree : FileTree} {e : LoadError}
    (h : Unreadable parseText (storeWith tree) "run.yml".toList e) : EndsBoth tree e := by
  unfold EndsBoth load
  rw [loadBy_of_unreadable h, loadBy_of_unreadable h]
  exact ⟨rfl, rfl⟩

def impossibleDate : List Char := "since: 2024-02-30".toList

theorem parseText_impossibleDate : parseText "run.yml".toList impossibleDate =
    .error (.meaningless "day is out of range for month") := by
  have hyaml : (lower (Path.suffix "run.yml".toList) == ".json".toList) = false := by
    decide +kernel
  have htokens : Yaml.tokens? impossibleDate =
      some [.blockMapping, .key, .scalar "since".toList true, .value,
        .scalar "2024-02-30".toList true, .blockEnd] := by decide +kernel
  have hnode : Yaml.Node.ofTokens? [.blockMapping, .key, .scalar "since".toList true, .value,
        .scalar "2024-02-30".toList true, .blockEnd] =
      some (.mapping [(.scalar "since".toList true, .scalar "2024-02-30".toList true)]) := rfl
  have hvalue : Yaml.Node.toValue
        (.mapping [(.scalar "since".toList true, .scalar "2024-02-30".toList true)]) =
      .error (.meaningless "day is out of range for month") := by
    simp only [Yaml.Node.toValue, Yaml.Node.mappingEntries, Yaml.Node.mergedFrom,
      Yaml.Node.ownEntries]
    rfl
  simp only [parseText, hyaml, Yaml.parse, htokens, Option.bind_some, hnode, hvalue]
  rfl

/-- A directory in the place of the file, octets that are no text, and a date that is not in the
calendar: no policy covers them. -/
theorem policy_escaped :
    EndsBoth (.directory []) (.refused ⟨.isDirectory, "run.yml".toList⟩) ∧
      EndsBoth (.file [0xFF, 0xFE]) .notText ∧
      EndsBoth (.file (Utf8.encode impossibleDate))
        (.meaningless "day is out of range for month") := by
  have htext := Utf8.decode?_encode impossibleDate
  refine ⟨?_, ?_, ?_⟩
  · exact endsBoth_of_unreadable (.refused rfl (by decide))
  · exact endsBoth_of_unreadable (.notText rfl rfl)
  · exact endsBoth_of_unreadable (.meaningless rfl htext parseText_impossibleDate)

end DeclDocs.Settings
